import Stagecraft.Stage.Draft
import Stagecraft.Stage.Report

/-!
# Stages

A stage holds entities, scenes and worlds by number, and remembers which scene the game is in.
Entities and scenes are hosts: both have a name, sounds, handlers and a sequencer. Whatever runs on
a stage may fail half way, and what has been changed until then stays changed.
-/

namespace Stagecraft

/-- A host of handlers and sequences, by its number on the stage. -/
inductive Host where
  | entity (n : Nat)
  | scene (n : Nat)
  deriving DecidableEq, Repr

/-- A stage. While the scheduler of tasks is running, changes of scene are tasks that wait for
their turn, and `pending` lists them; else they are made at once. What runs now may do so in another
thread than the scheduler (`aside`). -/
structure Stage where
  entities : List Entity := []
  scenes : List Scene := []
  worlds : List (World Nat) := []
  game : Option Nat := none
  pending : Option (List String) := none
  aside : Bool := false
  reports : List Report := []

/-- Running on a stage. A failure keeps what has been done. -/
abbrev Play := ExceptT Fault (StateM Stage)

namespace Stage

def entity (s : Stage) (n : Nat) : Entity := s.entities[n]?.getD {}

def scene (s : Stage) (n : Nat) : Scene := s.scenes[n]?.getD {}

def world (s : Stage) (n : Nat) : World Nat := s.worlds[n]?.getD {}

def objects (s : Stage) (w : Nat) : List Entity := (s.world w).objects.map s.entity

def bus (s : Stage) : Host → Bus Handler
  | .entity n => (s.entity n).bus
  | .scene n => (s.scene n).bus

def sequencer (s : Stage) : Host → Sequencer
  | .entity n => (s.entity n).sequencer
  | .scene n => (s.scene n).sequencer

def audio (s : Stage) : Host → Catalog Clip
  | .entity n => (s.entity n).audio
  | .scene n => (s.scene n).audio

/-- The report of a sound that a host does not have. -/
def noSound (s : Stage) (id : String) : Host → Report
  | .entity n => .noSound "Entity" (s.entity n).name id
  | .scene n => .noSound "Scene" (s.scene n).name id

def setEntity (s : Stage) (n : Nat) (e : Entity) : Stage :=
  { s with entities := s.entities.set n e }

def setWorld (s : Stage) (n : Nat) (w : World Nat) : Stage := { s with worlds := s.worlds.set n w }

def withBus (s : Stage) (f : Bus Handler → Bus Handler) : Host → Stage
  | .entity n => s.setEntity n { s.entity n with bus := f (s.entity n).bus }
  | .scene n => { s with scenes := s.scenes.set n { s.scene n with bus := f (s.scene n).bus } }

def withSequencer (s : Stage) (f : Sequencer → Sequencer) : Host → Stage
  | .entity n => s.setEntity n { s.entity n with sequencer := f (s.entity n).sequencer }
  | .scene n =>
    { s with scenes := s.scenes.set n { s.scene n with sequencer := f (s.scene n).sequencer } }

/-- Brings an entity onto the stage, under the next number. -/
def bring (s : Stage) (e : Entity) : Stage :=
  { s with entities := s.entities ++ [e.numbered s.entities.length] }

/-- Puts an entity that is on the stage into a world. -/
def put (s : Stage) (w n : Nat) : Stage :=
  (s.setEntity n ((s.entity n).inWorld w)).setWorld w ((s.world w).push n)

/-- Puts a new entity into a world. -/
def bringInto (s : Stage) (w : Nat) (e : Entity) : Stage := (s.bring e).put w s.entities.length

/-- Puts an empty world on the stage, under the next number. -/
def bringWorld (s : Stage) : Stage :=
  { s with worlds := s.worlds ++ [{ number := s.worlds.length }] }

/-- Puts the draft of a scene on the stage, with its world and the objects in it. -/
def raise (s : Stage) (d : SceneDraft) : Stage :=
  let w := s.worlds.length
  let first := s.entities.length
  let numbers := (List.range d.world.objects.length).map (first + ·)
  { s with
    entities :=
      s.entities ++ d.world.objects.mapIdx fun i e => (e.numbered (first + i)).inWorld w
    scenes := s.scenes ++ [{ d.scene with world := w }]
    worlds := s.worlds ++ [{ d.world.withObjects numbers with number := w }] }

def find? (s : Stage) (w : Nat) (id : Option String) : Option Entity :=
  (s.objects w).find? (·.id = id)

def tell (s : Stage) (r : Report) : Stage := { s with reports := s.reports ++ [r] }

/-- Changes an entity, which may fail after some changes. -/
def change (n : Nat) (f : Entity → Entity × Except Fault Unit) : Play Unit := do
  let s ← get
  let (e, result) := f (s.entity n)
  set (s.setEntity n e)
  result

/-- Changes an entity, or fails without changing it. -/
def replace (n : Nat) (f : Entity → Except Fault Entity) : Play Unit :=
  change n fun e =>
    match f e with
    | .ok e => (e, .ok ())
    | .error fault => (e, .error fault)

/-- Lets time pass in a world, for one object after the other. The clock counts it when all are
done. -/
def simulate (w : Nat) (dt : Float) : Play Unit := do
  for n in ((← get).world w).objects do
    change n (·.timeshift (.seconds dt))
  modify fun s => s.setWorld w { s.world w with time := (s.world w).time + dt }

theorem raise_scenes_length (s : Stage) (d : SceneDraft) :
    (s.raise d).scenes.length = s.scenes.length + 1 := by
  simp [raise]

end Stage

end Stagecraft
