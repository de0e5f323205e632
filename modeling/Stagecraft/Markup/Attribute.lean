import Stagecraft.Fault
import Stagecraft.Geometry.Plane
import Stagecraft.Markup.Selector
import Stagecraft.Number.Decimal

/-!
# Reading attributes

Typed attribute values. What is absent or blank is not given; what is given must be readable, and
the element is reported if it is not.
-/

namespace Stagecraft

namespace Markup

namespace Cursor

/-- The text of an attribute that has one and is not blank. -/
def given? (c : Cursor) (name : String) : Option String :=
  (c.get? name).filter fun value => !Text.isAllBlank value

def real? (c : Cursor) (name : String) : Except Fault (Option Float) :=
  match c.given? name with
  | none => .ok none
  | some value =>
    match Numeral.float? value with
    | some x => .ok (some x)
    | none => .error (.defect (.notANumber name value) c.element)

/-- A number, or what stands for it when it is not given. -/
def real (c : Cursor) (name : String) (default : Float) : Except Fault Float :=
  return (← c.real? name).getD default

def integer? (c : Cursor) (name : String) : Except Fault (Option Int) :=
  match c.given? name with
  | none => .ok none
  | some value =>
    match Numeral.int? value with
    | some n => .ok (some n)
    | none => .error (.defect (.notAnInteger name value) c.element)

/-- An integer, or what stands for it when it is not given. -/
def integer (c : Cursor) (name : String) (default : Int) : Except Fault Int :=
  return (← c.integer? name).getD default

/-- A truth value: one of two words, or else the default. -/
def flag (c : Cursor) (name : String) (default : Bool) : Bool :=
  match c.get? name with
  | some "true" => true
  | some "false" => false
  | _ => default

/-- A plane vector, if both attributes are there. -/
def vec2? (c : Cursor) (x y : String) : Except Fault (Option Vec2) :=
  if (c.get? x).isNone || (c.get? y).isNone then .ok none
  else return some ⟨← c.real x 0, ← c.real y 0⟩

/-- A vector of the world, if the first two attributes are there. -/
def vec3? (c : Cursor) (x y z : String) : Except Fault (Option Vec3) :=
  if (c.get? x).isNone || (c.get? y).isNone then .ok none
  else return some ⟨← c.real x 0, ← c.real y 0, ← c.real z 0⟩

def position? (c : Cursor) : Except Fault (Option Vec3) := c.vec3? "x" "y" "z"

/-- A rectangle, which needs a width and a height. -/
def rect (c : Cursor) : Except Fault Rect := do
  match ← c.real? "w", ← c.real? "h" with
  | some w, some h => return ⟨← c.real "x" 0, ← c.real "y" 0, w, h⟩
  | _, _ => throw (.defect .rectangleSize c.element)

def plane (c : Cursor) : Except Fault Plane := do
  let kind := (c.get? "type").getD "plane"
  if kind ≠ "plane" then throw (.defect (.geometryKind kind) c.element)
  match ← c.vec2? "w" "h" with
  | none => throw (.defect .geometrySize c.element)
  | some size =>
    return Plane.new size.x size.y (← c.integer "w-segments" 1) (← c.integer "h-segments" 1)

/-- Holds when the element has one of the tags. -/
def ensure (c : Cursor) (tags : List String) : Except Fault Unit :=
  if tags.contains c.tag then .ok () else .error (.wrongElement c.element.toText tags)

end Cursor

end Markup

end Stagecraft
