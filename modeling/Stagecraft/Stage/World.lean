import Stagecraft.Entity.Basic
import Stagecraft.Stage.Camera

/-!
# Worlds and scenes

A world holds objects and lets time pass for them. A scene is what surrounds a world: a camera,
sounds, handlers and sequences. What the objects of a world are is left open, since they are
entities while a scene is put together and numbers of entities once it is on a stage.
-/

namespace Stagecraft

/-- The entity in the world with a number. -/
def Entity.inWorld (e : Entity) (n : Nat) : Entity := { e with world := some n }

/-- Objects, the gravity that acts on them and the time that has passed. -/
structure World (α : Type) where
  number : Nat := 0
  objects : List α := []
  gravity : Vec2 := ⟨0, -9.81⟩
  time : Float := 0

namespace World

variable {α β : Type}

/-- A new object comes after those that are there. -/
def push (w : World α) (a : α) : World α := { w with objects := w.objects ++ [a] }

def withObjects (w : World α) (objects : List β) : World β :=
  { number := w.number, objects, gravity := w.gravity, time := w.time }

/-- Puts an entity into a world, which it knows from then on. -/
def add (w : World Entity) (e : Entity) : World Entity := w.push (e.inWorld w.number)

/-- Lets time pass for entities, one after the other. The first that fails ends it. -/
def shift (dt : Elapsed) (es : List Entity) : Except Fault (List Entity) :=
  es.mapM fun e =>
    match e.timeshift dt with
    | (e, .ok ()) => .ok e
    | (_, .error f) => .error f

/-- Lets time pass in a world. The clock counts it when all objects are done. -/
def settle (dt : Elapsed) (w : World Entity) : Except Fault (World Entity) := do
  let objects ← shift dt w.objects
  return { w with objects, time := w.time + dt.toFloat }

theorem objects_push (w : World α) (a : α) : (w.push a).objects = w.objects ++ [a] := rfl

end World

/-- What surrounds a world. On a stage the world is known by its number. -/
structure Scene where
  name : Option String := none
  camera : Camera := {}
  audio : Catalog Clip := []
  bus : Bus Handler := []
  sequencer : Sequencer := {}
  world : Nat := 0

end Stagecraft
