import Stagecraft.Fault
import Stagecraft.Number.Binary64

/-!
# Router values

The values that routers compute with: singletons, numbers, texts, byte strings and sequences.
Numbers of different kinds are compared as the exact numbers they denote (`Exact`). Texts are lists
of code points, since an escape may name a code point that no character has.
-/

namespace Stagecraft

namespace Router

inductive Datum where
  | nothing
  | ellipsis
  | truth (b : Bool)
  | integer (n : Int)
  | real (x : Float)
  | complex (re im : Float)
  | text (codes : List Nat)
  | bytes (octets : List Nat)
  | tuple (items : List Datum)
  | list (items : List Datum)
  | function
  deriving Inhabited

/-- What a real number denotes: a fraction `num / 2 ^ scale`, an infinity, or nothing. -/
inductive Exact where
  | fraction (num : Int) (scale : Nat)
  | infinite (negative : Bool)
  | undefined

namespace Exact

/-- The number that a binary64 number denotes. -/
def ofFloat (x : Float) : Exact :=
  match Binary64.parts x with
  | .nan => .undefined
  | .infinite negative => .infinite negative
  | .finite negative m e =>
    let num : Int := (m * Nat.pow 2 e.toNat : Nat)
    .fraction (if negative then -num else num) (-e).toNat

/-- The order of two numbers, if both are defined. -/
def compare? : Exact → Exact → Option Ordering
  | undefined, _ => none
  | _, undefined => none
  | infinite a, infinite b => some (if a = b then .eq else if a then .lt else .gt)
  | infinite a, fraction _ _ => some (if a then .lt else .gt)
  | fraction _ _, infinite b => some (if b then .gt else .lt)
  | fraction a s, fraction b t => some (compare (a * Nat.pow 2 t) (b * Nat.pow 2 s))

end Exact

/-- The order of two lists of numbers, decided by the first difference. -/
def lexicographic : List Nat → List Nat → Ordering
  | [], [] => .eq
  | [], _ :: _ => .lt
  | _ :: _, [] => .gt
  | a :: as, b :: bs => if a < b then .lt else if b < a then .gt else lexicographic as bs

/-- Is one list a run of consecutive items of the other? -/
def occursIn (part : List Nat) : List Nat → Bool
  | [] => part.isEmpty
  | c :: cs => part.isPrefixOf (c :: cs) || occursIn part cs

inductive OrderRelation where
  | less
  | lessEqual
  | greater
  | greaterEqual
  deriving DecidableEq, Repr

namespace OrderRelation

/-- Does the relation hold between two things in this order? -/
def holds : OrderRelation → Ordering → Bool
  | less, o => o == .lt
  | lessEqual, o => o != .gt
  | greater, o => o == .gt
  | greaterEqual, o => o != .lt

end OrderRelation

namespace Datum

/-- The integer that a value counts as; truth values count as one and zero. -/
def integer? : Datum → Option Int
  | truth b => some (if b then 1 else 0)
  | integer n => some n
  | _ => none

/-- The number that a real value denotes. -/
def denoted? : Datum → Option Exact
  | real x => some (Exact.ofFloat x)
  | d => d.integer?.map fun n => .fraction n 0

def isTrue : Datum → Bool
  | nothing => false
  | ellipsis => true
  | truth b => b
  | integer n => n ≠ 0
  | real x => !(x == 0)
  | complex re im => !(re == 0 && im == 0)
  | text codes => !codes.isEmpty
  | bytes octets => !octets.isEmpty
  | tuple items => !items.isEmpty
  | list items => !items.isEmpty
  | function => true

/-- Equality of what is no sequence of values. -/
def equalScalars (a b : Datum) : Bool :=
  match a, b with
  | nothing, nothing => true
  | ellipsis, ellipsis => true
  | text s, text t => s = t
  | bytes s, bytes t => s = t
  | complex p q, complex r s => p == r && q == s
  | complex p q, d => q == 0 && ((d.denoted?.map ((Exact.ofFloat p).compare? ·)) == some (some .eq))
  | d, complex p q => q == 0 && ((d.denoted?.map ((Exact.ofFloat p).compare? ·)) == some (some .eq))
  | _, _ =>
    match a.denoted?, b.denoted? with
    | some x, some y => x.compare? y == some .eq
    | _, _ => false

mutual

/-- Equality of values. Functions are equal to nothing that another expression gives. -/
def equal : Datum → Datum → Bool
  | tuple as, tuple bs => equalAll as bs
  | list as, list bs => equalAll as bs
  | a, b => equalScalars a b

/-- Equality of sequences, item by item. -/
def equalAll : List Datum → List Datum → Bool
  | [], [] => true
  | a :: as, b :: bs => equal a b && equalAll as bs
  | _, _ => false

end

mutual

/-- Does a relation of order hold? Only values of like kinds are ordered. -/
def ordered (r : OrderRelation) : Datum → Datum → Except Fault Bool
  | tuple as, tuple bs => orderedAll r as bs
  | list as, list bs => orderedAll r as bs
  | text s, text t => .ok (r.holds (lexicographic s t))
  | bytes s, bytes t => .ok (r.holds (lexicographic s t))
  | a, b =>
    match a.denoted?, b.denoted? with
    | some x, some y => .ok ((x.compare? y).any r.holds)
    | _, _ => .error .typeMismatch

/-- The order of sequences is that of the first items that differ. -/
def orderedAll (r : OrderRelation) : List Datum → List Datum → Except Fault Bool
  | [], [] => .ok (r.holds .eq)
  | [], _ :: _ => .ok (r.holds .lt)
  | _ :: _, [] => .ok (r.holds .gt)
  | a :: as, b :: bs => if equal a b then orderedAll r as bs else ordered r a b

end

/-- Is one value inside another? -/
def within (a : Datum) : Datum → Except Fault Bool
  | tuple items => .ok (items.any fun b => equal b a)
  | list items => .ok (items.any fun b => equal b a)
  | text t =>
    match a with
    | text s => .ok (occursIn s t)
    | _ => .error .typeMismatch
  | bytes t =>
    match a with
    | bytes s => .ok (occursIn s t)
    | _ =>
      match a.integer? with
      | some n => if 0 ≤ n && n < 256 then .ok (t.contains n.toNat) else .error .badValue
      | none => .error .typeMismatch
  | _ => .error .typeMismatch

/-- A number as a complex one. Integers beyond the binary64 range are refused. -/
def parts : Datum → Except Fault (Float × Float)
  | complex re im => .ok (re, im)
  | real x => .ok (x, 0)
  | d =>
    match d.integer? with
    | none => .error .typeMismatch
    | some n =>
      match Binary64.ofInt? n with
      | some x => .ok (x, 0)
      | none => .error .overflow

def isComplex : Datum → Bool
  | complex _ _ => true
  | _ => false

def isNumber (d : Datum) : Bool := d.isComplex || d.denoted?.isSome

end Datum

inductive Arithmetic where
  | sum
  | difference
  | quotient
  deriving DecidableEq, Repr

namespace Arithmetic

/-- The exact quotient of two integers, rounded once. -/
def divide (m n : Int) : Except Fault Datum :=
  if n = 0 then .error .divisionByZero
  else if Binary64.magnitudeBits m.natAbs n.natAbs = Binary64.infinityBits then .error .overflow
  else .ok (.real (Binary64.ofRatio ((m < 0) != (n < 0)) m.natAbs n.natAbs))

def onIntegers : Arithmetic → Int → Int → Except Fault Datum
  | sum, m, n => .ok (.integer (m + n))
  | difference, m, n => .ok (.integer (m - n))
  | quotient, m, n => divide m n

def onReals : Arithmetic → Float → Float → Except Fault Datum
  | sum, x, y => .ok (.real (x + y))
  | difference, x, y => .ok (.real (x - y))
  | quotient, x, y => if y == 0 then .error .divisionByZero else .ok (.real (x / y))

/-- The quotient of complex numbers, scaled by the larger part of the divisor. -/
def divideComplex (a b c d : Float) : Except Fault Datum :=
  if d.abs ≤ c.abs then
    if c == 0 then .error .divisionByZero
    else
      let ratio := d / c
      let denom := c + d * ratio
      .ok (.complex ((a + b * ratio) / denom) ((b - a * ratio) / denom))
  else if c.abs ≤ d.abs then
    let ratio := c / d
    let denom := c * ratio + d
    .ok (.complex ((a * ratio + b) / denom) ((b * ratio - a) / denom))
  else .ok (.complex Binary64.nan Binary64.nan)

def onComplex : Arithmetic → Float × Float → Float × Float → Except Fault Datum
  | sum, (a, b), (c, d) => .ok (.complex (a + c) (b + d))
  | difference, (a, b), (c, d) => .ok (.complex (a - c) (b - d))
  | quotient, (a, b), (c, d) => divideComplex a b c d

/-- The result on two values, which must be numbers. Two integers are computed with exactly. -/
def onNumbers (op : Arithmetic) (a b : Datum) : Except Fault Datum :=
  match a.integer?, b.integer? with
  | some m, some n => op.onIntegers m n
  | _, _ =>
    if !(a.isNumber && b.isNumber) then .error .typeMismatch
    else do
      let x ← a.parts
      let y ← b.parts
      if a.isComplex || b.isComplex then op.onComplex x y else op.onReals x.1 y.1

/-- The result on two values. Sequences of one kind are added by joining them. -/
def apply (op : Arithmetic) (a b : Datum) : Except Fault Datum :=
  match op, a, b with
  | sum, .text s, .text t => .ok (.text (s ++ t))
  | sum, .bytes s, .bytes t => .ok (.bytes (s ++ t))
  | sum, .tuple s, .tuple t => .ok (.tuple (s ++ t))
  | sum, .list s, .list t => .ok (.list (s ++ t))
  | _, _, _ => op.onNumbers a b

end Arithmetic

namespace Datum

def negate : Datum → Except Fault Datum
  | real x => .ok (real (-x))
  | complex re im => .ok (complex (-re) (-im))
  | d =>
    match d.integer? with
    | some n => .ok (integer (-n))
    | none => .error .typeMismatch

end Datum

end Router

end Stagecraft
