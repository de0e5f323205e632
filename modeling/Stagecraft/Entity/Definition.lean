import Stagecraft.Animation.FaceBinding
import Stagecraft.Loading.Loader
import Stagecraft.Router.Inline
import Stagecraft.Trait.Definition

/-!
# Entity definitions

What the element of an entity says about it, found at fixed places below the element: a class to
build on, geometries or a text, collision zones, events, traits, sequences, a router and sounds.
Only sounds have to be waited for (`Blueprint.ofElement`); all other defects are found before any
sound is asked for, in the order of this list.
-/

namespace Stagecraft

open Markup

/-- What an entity looks like: planes, animators for the first of them, and textures. -/
structure Figure where
  planes : List Plane := []
  animators : List Animator := []
  textures : Catalog Texture

namespace Figure

/-- The animators of a geometry: those of its faces, or else one for the default animation. -/
def animatorsOf (a : Atlas) (geometry : Cursor) : Except Fault (List Animator) := do
  let bound ← FaceBinding.animators a.animations (geometry.find (Selector.ofString "face"))
  if bound.isEmpty then
    return (a.defaultAnimation?.map fun animation => Animator.setAnimation {} animation).toList
  else return bound

def part (a : Atlas) (geometry : Cursor) : Except Fault (Plane × List Animator) := do
  let plane ← geometry.plane
  return (plane, ← animatorsOf a geometry)

def ofGeometries (a : Atlas) (geometries : List Cursor) : Except Fault Figure := do
  let parts ← geometries.mapM (part a)
  return {
    planes := parts.map (·.1)
    animators := (parts.map (·.2)).flatten
    textures := a.textures }

variable [Application]

/-- The figure of a text, which is drawn with a font and shows nothing else. -/
def ofText (host : Registrations) (id : String) (text : Cursor) : Except Fault Figure :=
  match (text.get? "font").filter (· ≠ "") with
  | none => .error (.defect .textFont text.element)
  | some name => do
    let font ← host.font name text.element
    let (plane, size) ← Application.typeset font (innerText text.element.children)
    return { planes := [plane], textures := [(Catalog.defaultKey, ⟨id, some ⟨0, size⟩, size⟩)] }

/-- The figure of an entity: its geometries if it has any, or else its first text. -/
def ofElement (host : Registrations) (a : Atlas) (id : String) (c : Cursor) :
    Except Fault Figure :=
  match c.find (Selector.ofString "geometry"), c.first? (Selector.ofString "text") with
  | [], none => .ok { textures := a.textures }
  | [], some text => ofText host id text
  | geometries, _ => ofGeometries a geometries

end Figure

namespace Zone

def ofElement (c : Cursor) : Except Fault Zone :=
  match c.tag with
  | "rect" => c.rect.map fun r => .rect r.w r.h r.x r.y
  | "circ" => do
    match ← c.real? "r" with
    | none => throw (.defect .collisionRadius c.element)
    | some r => return .circle r (← c.real "x" 0) (← c.real "y" 0)
  | tag => .error (.defect (.collisionKind tag) c.element)

/-- The zones of an entity, which are listed in the first collision element below it. -/
def allOf (c : Cursor) : Except Fault (List Zone) :=
  match c.first? (Selector.ofString "collision") with
  | none => .ok []
  | some collision => collision.children.mapM ofElement

end Zone

/-- What the children with a tag declare, all together. -/
def declared {α : Type} (c : Cursor) (tag : String) (read : Cursor → Except Fault (List α)) :
    Except Fault (List α) := do
  return (← (c.childrenTagged tag).mapM read).flatten

namespace AnimationRouter

variable [Application]

/-- The router of an entity: one that is registered, or one that is written out. -/
def ofElement (host : Registrations) (c : Cursor) : Except Fault (Option AnimationRouter) :=
  match (c.childrenTagged "animation-router").head? with
  | none => .ok none
  | some router =>
    match (router.get? "name").filter (· ≠ "") with
    | some name =>
      match host.routers.get? name with
      | some r => .ok (some (.named r))
      | none => .error (.defect (.routerUnregistered name) router.element)
    | none =>
      let source := Text.strip router.element.leadingText
      if source.isEmpty then .ok none
      else (Router.compile source (some router.element)).map fun body => some (.inline body)

end AnimationRouter

namespace Clip

/-- The sound elements of a host, each of which needs an id. -/
def elements (c : Cursor) : Except Fault (List (String × Cursor)) :=
  (((c.childrenTagged "audio").map Cursor.children).flatten).mapM fun sound =>
    match (sound.get? "id").filter (· ≠ "") with
    | some id => .ok (id, sound)
    | none => .error (.defect .audioId sound.element)

/-- The sounds of a host by id. They are loaded side by side. -/
def allOf (l : Loader) (c : Cursor) : Timed (Catalog Clip) := do
  let sounds ← elements c
  let clips ← Timed.gather (sounds.map fun sound => l.clipOf sound.2)
  return Catalog.putAll [] ((sounds.map (·.1)).zip clips)

end Clip

namespace Blueprint

/-- The class that an entity builds on. -/
def baseOf (host : Registrations) (c : Cursor) : Except Fault EntityClass :=
  if c.get? "type" ≠ some "character" then .ok .plain
  else
    match ((c.get? "source").filter (· ≠ "")).bind host.entities.get? with
    | some base => .ok base
    | none => .error (.defect (.entityUnregistered (c.get? "source")) c.element)

variable [Application]

/-- Everything about an entity but its sounds. -/
def silent (host : Registrations) (a : Atlas) (c : Cursor) : Except Fault Blueprint := do
  let id := (c.get? "id").getD ""
  let base ← baseOf host c
  let figure ← Figure.ofElement host a id c
  let collision ← Zone.allOf c
  let events ← declared c "events" EventBinding.allOf
  let traits ← declared c "traits" (TraitMaker.allOf (some host))
  let sequences ← declared c "sequences" SequenceDef.allOf
  let router ← AnimationRouter.ofElement host c
  return {
    id, base, animations := a.animations, textures := figure.textures, planes := figure.planes
    animators := figure.animators, traits, collision, events, sequences, router }

def ofElement (l : Loader) (a : Atlas) (c : Cursor) : Timed Blueprint := do
  let b ← silent l.host a c
  return { b with audio := ← Clip.allOf l c }

end Blueprint

end Stagecraft
