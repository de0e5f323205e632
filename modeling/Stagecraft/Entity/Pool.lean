import Stagecraft.Animation.Definition
import Stagecraft.Entity.Definition

/-!
# Pools of entities

A document of entities is compiled as a whole. Its direct items must have different ids; textures
and animations anywhere below the root are shared by all of them. Textures are loaded side by side
before anything else is read, and then the items are compiled side by side.
-/

namespace Stagecraft

open Markup

/-- Compiled entities by id. -/
abbrev Pool := Catalog Entry

namespace Pool

/-- The roots that a pool may have, each with the tag of its items. -/
def itemTags : List (String × String) := [("entities", "entity"), ("objects", "object")]

/-- The tag of the items of a pool. -/
def itemTag (c : Cursor) : String := (itemTags.lookup c.tag).getD ""

/-- Adds an item, which needs an id that no item before it has. -/
def addItem (tag : String) (found : Catalog Cursor) (item : Cursor) :
    Except Fault (Catalog Cursor) :=
  match (item.get? "id").filter (· ≠ "") with
  | none => .error (.defect (.itemId tag) item.element)
  | some id =>
    if found.has id then .error (.duplicateId id item.element) else .ok (found.put id item)

/-- The items of a pool by id. -/
def items (c : Cursor) : Except Fault (Catalog Cursor) :=
  (c.childrenTagged (itemTag c)).foldlM (addItem (itemTag c)) []

/-- The texture that an element describes. Its size is that of its picture unless it is given. -/
def texture (l : Loader) (serial : Nat) (c : Cursor) : Timed Texture := do
  let picture ← l.pictureOf c
  let size ← c.vec2? "w" "h"
  let id := ((c.get? "id").filter (· ≠ "")).getD Catalog.defaultKey
  return ⟨id, some ⟨serial, some picture⟩, some (size.getD picture)⟩

def textures (l : Loader) (c : Cursor) : Timed (Catalog Texture) := do
  let elements := c.find (Selector.ofString "textures > texture")
  return Atlas.ofTextures (← Timed.gather (elements.zipIdx.map fun e => texture l e.2 e.1))

/-- The animation that an element describes, on the texture that the element around it names. -/
def animation (a : Atlas) (serial : Nat) (c : Cursor) : Except Fault Animation := do
  let sheet ← a.texture (c.parent?.bind (·.get? "texture")) (some c.element)
  return { ← Animation.ofElement c sheet.size with serial }

def atlas (l : Loader) (c : Cursor) : Timed Atlas := do
  let a : Atlas := { textures := ← textures l c }
  let elements := c.find (Selector.ofString "animations > animation")
  let animations ← (elements.zipIdx.mapM fun e => animation a e.2 e.1 : Except Fault _)
  return { a with animations := Atlas.ofAnimations animations }

variable [Application]

/-- A pool of entities, compiled in one go. -/
def compile (l : Loader) (c : Cursor) : Timed Pool := do
  let items ← items c
  let a ← atlas l c
  let blueprints ← Timed.gather (items.map fun item => Blueprint.ofElement l a item.2)
  for b in blueprints do
    unless b.hasDefaultTexture do Timed.notice (.noDefaultTexture b.id)
  return (items.zip blueprints).map fun e => (e.1.1, ⟨e.1.2, e.2⟩)

/-- The root of a pool must have one of two tags. -/
def check (c : Cursor) : Except Fault Unit := c.ensure (itemTags.map (·.1))

/-- The entities of a pool. Whoever asks waits for a compilation of its own task. -/
def ofElement (l : Loader) (c : Cursor) : Timed Pool := Timed.task 1 2 (compile l c)

end Pool

end Stagecraft
