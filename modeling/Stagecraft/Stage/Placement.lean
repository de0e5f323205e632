import Stagecraft.Entity.Pool
import Stagecraft.Stage.World

/-!
# Placements

The layout of a scene puts instances into its world: first plain rectangles that behave in some
way, then objects from the pools of the scene or the resources of the host. A placement remembers
its element, where the instance came from and which object of the world it is.
-/

namespace Stagecraft

open Markup

inductive Behavior where
  | climbable
  | deathZone
  | solid
  deriving DecidableEq, Repr

namespace Behavior

/-- Every behavior, by the tag of the group that its rectangles are in. -/
def all : List (String × Behavior) :=
  [("climbables", climbable), ("deathzones", deathZone), ("solids", solid)]

/-- The trait that makes an entity behave in this way. -/
def trait : Behavior → Trait
  | climbable => Trait.new .climbable
  | deathZone => Trait.new .deathZone
  | solid => ((Trait.new .solid).setField "fixed" (.truth true)).setField "obstructs" (.truth true)

/-- An entity that behaves in this way in a rectangle. -/
def make [Application] (b : Behavior) (r : Rect) : Except Fault Entity :=
  ({ collision := [.rect r.w r.h 0 0], position := ⟨r.x, r.y, 0⟩ } : Entity).withTrait b.trait

/-- The behavior that a rectangle gets from the element around it. -/
def ofElement (c : Cursor) : Except Fault Behavior :=
  let kind := Text.toLower ((c.parent?.map (·.tag)).getD "")
  match all.lookup kind with
  | some b => .ok b
  | none => .error (.defect (.behaviorKind kind) c.element)

end Behavior

/-- Where an instance comes from: a behavior, the pool of its scene, or what the host registers,
which is called or is an entry of some other pool. -/
inductive Origin where
  | behavior (b : Behavior)
  | pool (entry : Entry)
  | resource (c : EntityClass)
  | stored (entry : Entry)

namespace Origin

/-- What is registered is called, unless it is an entry. -/
def ofPrebuilt : Prebuilt → Origin
  | .maker k => resource k
  | .entry entry => stored entry

/-- The element of a pool that an instance was built from. -/
def source? : Origin → Option Cursor
  | pool entry => some entry.place
  | stored entry => some entry.place
  | _ => none

/-- The object that a layout names: one of a pool, or else one that the host registers. -/
def find (l : Loader) (pool : Pool) (c : Cursor) : Except Fault Origin :=
  match (c.get? "id").bind pool.get? with
  | some entry => .ok (.pool entry)
  | none =>
    match ((c.get? "id").filter (· ≠ "")).bind l.host.object? with
    | some o => .ok (.ofPrebuilt o)
    | none => .error (.defect (.objectUndefined (c.get? "id")) c.element)

end Origin

/-- An instance that a layout has put into a world, as the object with the number `seat`. -/
structure Placement where
  place : Cursor
  origin : Origin
  seat : Nat

namespace Placement

variable [Application]

def behavior (c : Cursor) : Except Fault (Origin × Entity) := do
  let b ← Behavior.ofElement c
  return (.behavior b, ← b.make (← c.rect))

def fresh : Origin → Except Fault Entity
  | .behavior b => b.make ⟨0, 0, 0, 0⟩
  | .pool entry => entry.blueprint.build
  | .resource k => k.make
  | .stored entry => entry.blueprint.build

/-- The side that an instance looks to, which may be given as any integer. -/
def facing (c : Cursor) : Except Fault Vec2 := do
  let dir := ((← c.integer? "dir").filter (· ≠ 0)).getD 1
  match Binary64.ofInt? dir with
  | some x => return ⟨x, 0⟩
  | none => throw .invalidModel

/-- Attaches the trait of an element, unless the instance has one with its label. -/
def attach (l : Loader) (id : Option String) (e : Entity) (c : Cursor) : Except Fault Entity := do
  let t ← (← TraitMaker.ofElement (some l.host) c).make
  if (e.trait? t.label).isSome then throw (.defect (.traitRepeated t.label id) c.element)
  else e.withTrait t

def rescale (c : Cursor) (e : Entity) : Except Fault Entity :=
  match e.model with
  | none => .ok e
  | some m => do
    let factor := ((← c.real? "scale").filter fun x => !(x == 0)).getD 1
    return { e with model := some { m with scale := m.scale.scale factor } }

/-- Makes a new entity the instance that an element of a layout wants. -/
def dress (l : Loader) (c : Cursor) (e : Entity) : Except Fault Entity := do
  let direction ← facing c
  let position := (← c.position?).getD {}
  let e ← rescale c { e with id := c.get? "instance-id", direction, position }
  (c.find (Selector.ofString "trait")).foldlM (attach l (c.get? "id")) e

def object (l : Loader) (pool : Pool) (c : Cursor) : Except Fault (Origin × Entity) := do
  let origin ← Origin.find l pool c
  let e ← fresh origin
  return (origin, ← dress l c e)

/-- Puts instances into a world, one for each element. -/
def all (make : Cursor → Except Fault (Origin × Entity)) (w : World Entity) (cs : List Cursor) :
    Except Fault (World Entity × List Placement) :=
  cs.foldlM (fun (w, placed) c => do
    let (origin, e) ← make c
    return (w.add e, placed ++ [⟨c, origin, w.objects.length⟩])) (w, [])

end Placement

end Stagecraft
