import Stagecraft.Animation.Animator
import Stagecraft.Animation.Atlas
import Stagecraft.Event.Bus
import Stagecraft.Event.Sequencer
import Stagecraft.Loading.Storage
import Stagecraft.Router.Evaluation
import Stagecraft.Trait.Basic

/-!
# Entities

A placeable object, put together from traits, animators and collision zones. Its handlers are kept
as data and say what the entity does when an event fires; running them is up to the stage. An
operation that fails half way keeps what it has changed so far.
-/

namespace Stagecraft

/-- What happens when an event fires. -/
inductive Handler where
  | actions (as : List Action)
  | spawn (c : SpawnCondition)
  | switch (scene : String)
  | listener (label : String)

/-- A region in which an entity is hit. -/
inductive Zone where
  | rect (w h x y : Float)
  | circle (r x y : Float)

structure Model where
  plane : Plane
  picture : Option Picture := none
  transparent : Bool := true
  doubleSided : Bool := true
  depthWrite : Bool := false
  scale : Vec3 := ⟨1, 1, 1⟩

/-- A registered way to choose an animation. Some take the entity as an argument. -/
structure NamedRouter where
  code : Foreign
  takesHost : Bool
  deriving Repr, DecidableEq

/-- A way to choose an animation: a fixed expression, or one the host registers. -/
inductive AnimationRouter where
  | inline (body : Router.Expr)
  | named (r : NamedRouter)

namespace AnimationRouter

/-- Is the entity given to the router? -/
def takesHost : AnimationRouter → Bool
  | inline _ => false
  | named r => r.takesHost

end AnimationRouter

inductive Routed where
  | datum (d : Router.Datum)
  | value (v : Value)

/-- An entity. It has a number of its own, by which its traits know it, and the world it is in is
known by its number as well. -/
structure Entity where
  number : Nat := 0
  className : String := EntityClass.plain.name
  id : Option String := none
  name : Option String := none
  position : Vec3 := {}
  direction : Vec2 := ⟨1, 0⟩
  model : Option Model := none
  world : Option Nat := none
  animations : Catalog Animation := []
  textures : Catalog Texture := []
  audio : Catalog Clip := []
  animators : List Animator := []
  collision : List Zone := []
  traits : List Trait := []
  bus : Bus Handler := []
  sequencer : Sequencer := {}
  router : Option AnimationRouter := none

namespace Entity

def trait? (e : Entity) (label : String) : Option Trait := e.traits.find? (·.label = label)

/-- The entity under another number. Traits that have it as their host still do. -/
def numbered (e : Entity) (n : Nat) : Entity :=
  { e with
    number := n
    traits := e.traits.map (·.moved e.number n) }

/-- Draws a texture of the entity on its model, if it has one. -/
def useTexture (e : Entity) (id : String) : Except Fault Entity :=
  match e.model with
  | none => .ok e
  | some m =>
    match e.textures.get? id with
    | none => .error (.textureKey id)
    | some t => .ok { e with model := some { m with picture := t.picture } }

/-- Lets an animator of the entity show one of its animations. A negative position counts from the
end. -/
def showAnimation (e : Entity) (animator : Int) (id : String) : Except Fault Entity :=
  match (Plane.position? e.animators.length animator).bind fun i => e.animators[i]?.map (i, ·) with
  | none => .error .indexRange
  | some (i, a) =>
    match e.animations.get? id with
    | none => .error (.textureKey id)
    | some animation => .ok { e with animators := e.animators.set i (a.setAnimation animation) }

/-- The textures whose picture is on the model. -/
def shownTextures (e : Entity) : List String :=
  let shown (t : Texture) : Bool :=
    t.picture.map (·.serial) == (e.model.bind (·.picture)).map (·.serial)
  Catalog.keys (e.textures.filter fun entry => shown entry.2)

/-- Lets time pass for animators from some on. The first that fails ends it. -/
def runAnimators (dt : Float) : List Animator → List Plane →
    List Animator × List Plane × Except Fault Unit
  | [], planes => ([], planes, .ok ())
  | a :: rest, planes =>
    let (a, planes, result) := a.update dt planes
    match result with
    | .error f => (a :: rest, planes, .error f)
    | .ok () =>
      let (rest, planes, result) := runAnimators dt rest planes
      (a :: rest, planes, result)

def updateAnimators (e : Entity) (dt : Float) : Entity × Except Fault Unit :=
  let (animators, planes, result) := runAnimators dt e.animators (e.model.map (·.plane)).toList
  let model := e.model.map fun m => { m with plane := planes.head?.getD m.plane }
  ({ e with animators, model }, result)

/-- Lets time pass for traits from some on, which may move the entity. The first that fails ends
it. -/
def runTraits (dt : Elapsed) : List Trait → Vec3 → List Trait × Vec3 × Except Fault Unit
  | [], position => ([], position, .ok ())
  | t :: rest, position =>
    if !t.isEnabled then
      let (rest, position, result) := runTraits dt rest position
      (t :: rest, position, result)
    else
      match t.elapse dt with
      | .error f => (t :: rest, position, .error f)
      | .ok t =>
        let (rest, position, result) := runTraits dt rest (t.carry dt position)
        (t :: rest, position, result)

/-- Lets time pass for the traits and then for the animators. -/
def timeshift (e : Entity) (dt : Elapsed) : Entity × Except Fault Unit :=
  let (traits, position, result) := runTraits dt e.traits e.position
  let e := { e with traits, position }
  match result with
  | .error f => (e, .error f)
  | .ok () => e.updateAnimators dt.toFloat

/-- Gives a moving trait a velocity. -/
def setVelocity (e : Entity) (v : Vec2) : Entity :=
  let moved (t : Trait) : Trait :=
    if t.velocity?.isSome then t.setField "velocity" (.vec2 v) else t
  { e with traits := e.traits.map moved }

end Entity

end Stagecraft
