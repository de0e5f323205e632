import Stagecraft.Markup.Cursor
import Stagecraft.Trait.Maker

/-!
# Blueprints

A blueprint is everything that the definition of an entity says, resolved. Each instance that is
built from it has a model, animators and traits of its own, and shares animations, textures and
sounds with the others. It comes on top of what an entity of its class has.
-/

namespace Stagecraft

open Markup

/-- A resolved definition of an entity. -/
structure Blueprint where
  id : String
  base : EntityClass := .plain
  animations : Catalog Animation := []
  textures : Catalog Texture := []
  planes : List Plane := []
  animators : List Animator := []
  traits : List TraitMaker := []
  collision : List Zone := []
  audio : Catalog Clip := []
  events : List EventBinding := []
  sequences : List SequenceDef := []
  router : Option AnimationRouter := none

namespace Blueprint

def hasDefaultTexture (b : Blueprint) : Bool := b.textures.has Catalog.defaultKey

/-- The animators of an instance, which all draw on its model. -/
def instanceAnimators (b : Blueprint) : List Animator :=
  if b.planes.isEmpty then [] else b.animators.map fun a => a.fresh.attach 0

/-- The animators that an entity has already. Without its model they have nothing to draw on. -/
def keptAnimators (b : Blueprint) (e : Entity) : List Animator :=
  if b.planes.isEmpty then e.animators else e.animators.map fun a => { a with planes := [] }

/-- The model of an instance, which is drawn on the first plane. Without one the entity keeps its
own. -/
def modelOn (b : Blueprint) (e : Entity) : Option Model :=
  let picture := ((e.textures.update b.textures).get? Catalog.defaultKey).bind (·.picture)
  (b.planes.head?.map fun plane => { plane, picture }).or e.model

/-- An instance before traits are attached. -/
def outfit (b : Blueprint) (e : Entity) : Entity :=
  { e with
    name := some b.id
    audio := e.audio.update b.audio
    animations := e.animations.update b.animations
    textures := e.textures.update b.textures
    router := b.router.or e.router
    model := b.modelOn e
    animators := b.keptAnimators e ++ b.instanceAnimators
    collision := e.collision ++ b.collision }

variable [Application]

/-- Attaches a new trait that a definition makes. -/
def attach (e : Entity) (m : TraitMaker) : Except Fault Entity := do e.withTrait (← m.make)

/-- Binds events and registers sequences. -/
def script (b : Blueprint) (e : Entity) : Entity :=
  { e with
    bus := b.events.foldl (fun bus ev => bus.bind ev.name (.actions ev.actions)) e.bus
    sequencer := b.sequences.foldl Sequencer.register e.sequencer }

/-- A new instance, whose first frames are drawn. -/
def build (b : Blueprint) : Except Fault Entity := do
  let e ← b.traits.foldlM attach (b.outfit (← b.base.make))
  let (e, result) := (b.script e).updateAnimators 0
  match result with
  | .ok () => return e
  | .error f => throw f

/-- How many different animations there are. -/
def animationCount (b : Blueprint) : Nat := (b.animations.map (·.2.serial)).eraseDups.length

end Blueprint

/-- A compiled entity and the element it was compiled from. -/
structure Entry where
  place : Cursor
  blueprint : Blueprint

end Stagecraft
