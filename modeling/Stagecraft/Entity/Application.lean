import Stagecraft.Entity.Basic
import Stagecraft.Router.Literal

/-!
# The host application

The library runs inside an application, which registers classes of entities and of traits, routers,
fonts and prebuilt objects. What these do when they are called is up to the application: it may
fail, and a trait of its own may change the entity it is attached to. `Application` is all that is
asked of the application, and of the platform below it, which knows the names of characters.
Everything that calls such code is stated for any application.

Methods that registered classes inherit are taken to be those of the library, apart from the ones
that are listed in `Application`.
-/

namespace Stagecraft

/-- What the platform and the host application do when they are asked. -/
class Application extends Router.CharacterNames where
  /-- Makes an entity. -/
  construct : Foreign → Except Fault Entity
  /-- Makes a trait. -/
  fresh : Foreign → Except Fault Trait
  /-- Attaches a trait to an entity, which either of them may see and change. -/
  attach : Foreign → Trait → Entity → Entity × Trait × Except Fault Unit
  /-- Gives a trait something to spawn. -/
  addCondition : Foreign → Trait → SpawnCondition → Except Fault Trait
  /-- Chooses an animation, for an entity if the router takes one. -/
  route : Foreign → Option Entity → Except Fault Value
  /-- Draws a text with a font: what it is drawn on, and the size of the picture if there is one. -/
  typeset : Foreign → String → Except Fault (Plane × Option Vec2)

/-- An application that has registered nothing, on a platform that knows no names. -/
@[reducible] def Application.bare : Application where
  named? _ := none
  construct _ := .error .missingOperation
  fresh _ := .error .missingOperation
  attach _ t e := (e, t, .error .missingOperation)
  addCondition _ _ _ := .error .missingOperation
  route _ _ := .error .missingOperation
  typeset _ _ := .error .missingOperation

namespace Bare

scoped instance : Application := Application.bare

end Bare

variable [Application]

/-- A new entity. -/
def EntityClass.make : EntityClass → Except Fault Entity
  | plain => .ok {}
  | registered f => Application.construct f
  | uncallable => .error .typeMismatch

namespace TraitClass

/-- A new trait. -/
def make : TraitClass → Except Fault Trait
  | builtIn kind => .ok (Trait.new kind)
  | registered f _ => Application.fresh f

end TraitClass

namespace Trait

/-- Gives a trait something to spawn. Of the built-in traits only spawners take it. -/
def addCondition (t : Trait) (c : SpawnCondition) : Except Fault Trait :=
  match t.kind with
  | .builtIn _ =>
    if t.spawns then .ok { t with conditions := t.conditions ++ [c] } else .error .missingOperation
  | .registered f _ => Application.addCondition f t c

/-- Binds the conditions of a trait. -/
def bindOn (t : Trait) (b : Bus Handler) : Bus Handler :=
  t.conditions.foldl (fun b c => b.bind c.event (.spawn c)) b

/-- Attaches a trait. A built-in one knows its host from then on, and its conditions are bound. -/
def attach (t : Trait) (e : Entity) : Entity × Trait × Except Fault Unit :=
  match t.kind with
  | .builtIn _ => ({ e with bus := t.bindOn e.bus }, t.hostedBy e.number, .ok ())
  | .registered f _ => Application.attach f t e

end Trait

namespace Entity

/-- Attaches a trait and lists it, unless one with its label is listed. -/
def applyTrait (e : Entity) (t : Trait) : Entity × Trait × Except Fault Unit :=
  if (e.trait? t.label).isSome then (e, t, .error (.traitTaken t.label e.name))
  else
    match t.attach e with
    | (e, t, .ok ()) => ({ e with traits := e.traits ++ [t] }, t, .ok ())
    | (e, t, .error f) => (e, t, .error f)

/-- The entity with a trait, for those who drop it if that fails. -/
def withTrait (e : Entity) (t : Trait) : Except Fault Entity :=
  match e.applyTrait t with
  | (e, _, .ok ()) => .ok e
  | (_, _, .error f) => .error f

/-- The animation that the router chooses. -/
def route? (e : Entity) : Option (Except Fault Routed) :=
  e.router.map fun r =>
    match r with
    | .inline body => body.value.map .datum
    | .named r =>
      (Application.route r.code (if r.takesHost then some e else none)).map .value

end Entity

end Stagecraft
