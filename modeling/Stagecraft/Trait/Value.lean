import Stagecraft.Fault
import Stagecraft.Geometry.Vector
import Stagecraft.Number.Binary64

/-!
# Field values

What the fields of a trait hold. Attributes may replace a number by a word, so the arithmetic of
running traits is defined on all of them: truth values count as one and zero, texts are joined, and
whatever does not fit is a mismatch.
-/

namespace Stagecraft

inductive Value where
  | null
  | truth (b : Bool)
  | integer (n : Int)
  | real (x : Float)
  | text (s : String)
  | vec2 (v : Vec2)
  | vec3 (v : Vec3)
  | list (items : List Value)
  | record (entries : List (String × Value))
  deriving Inhabited

/-- How much time passes. The settle pass has no duration at all, which is not the same as a
number of seconds that happens to be zero: texts can be repeated so many times. -/
inductive Elapsed where
  | none
  | seconds (dt : Float)

namespace Elapsed

def toFloat : Elapsed → Float
  | .none => 0
  | .seconds dt => dt

end Elapsed

namespace Value

/-- The number that a value counts as. -/
def number? : Value → Option Float
  | truth b => some (if b then 1 else 0)
  | integer n => Binary64.ofInt? n
  | real x => some x
  | _ => Option.none

/-- Single values, as opposed to structured ones. -/
def isScalar : Value → Bool
  | null => true
  | truth _ => true
  | integer _ => true
  | real _ => true
  | text _ => true
  | _ => false

/-- May an attribute replace a field with this value? -/
def isSettable : Value → Bool
  | truth _ => true
  | integer _ => true
  | real _ => true
  | text _ => true
  | _ => false

def isTrue : Value → Bool
  | null => false
  | truth b => b
  | integer n => n ≠ 0
  | real x => !(x == 0)
  | text s => !s.isEmpty
  | vec2 _ => true
  | vec3 _ => true
  | list items => !items.isEmpty
  | record entries => !entries.isEmpty

/-- The sum of two numbers, or two texts joined. -/
def add (a b : Value) : Except Fault Value :=
  match a, b with
  | text s, text t => .ok (text (s ++ t))
  | _, _ =>
    match a.number?, b.number? with
    | some x, some y => .ok (real (x + y))
    | _, _ => .error .typeMismatch

/-- A number times the time that passes. A text repeated no times is empty. -/
def times (a : Value) (dt : Elapsed) : Except Fault Value :=
  match a, dt with
  | text _, .none => .ok (text "")
  | _, _ =>
    match a.number? with
    | some x => .ok (real (x * dt.toFloat))
    | Option.none => .error .typeMismatch

/-- A value after some time. -/
def addElapsed (a : Value) (dt : Elapsed) : Except Fault Value := a.add (real dt.toFloat)

end Value

end Stagecraft
