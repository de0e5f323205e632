/-!
# Binary64 numbers as exact values

A finite binary64 number is `± mantissa · 2 ^ exponent`. Here it is taken apart into these exact
parts, and a quotient of natural numbers is put back together into the nearest one (`ofRatio`, a
tie goes to the even mantissa). Decimal numerals, remainders and conversions from integers are all
stated through the two.
-/

namespace Stagecraft

namespace Binary64

/-- What a binary64 number denotes. -/
inductive Parts where
  | finite (negative : Bool) (mantissa : Nat) (exponent : Int)
  | infinite (negative : Bool)
  | nan
  deriving Repr, DecidableEq

/-- The exact parts of a number. The least exponent is that of the subnormal numbers. -/
def parts (x : Float) : Parts :=
  let bits := x.toBits.toNat
  let negative : Bool := bits / Nat.pow 2 63 = 1
  let exponent : Nat := bits / Nat.pow 2 52 % Nat.pow 2 11
  let fraction : Nat := bits % Nat.pow 2 52
  if exponent = 2047 then
    if fraction = 0 then .infinite negative else .nan
  else if exponent = 0 then .finite negative fraction (-1074)
  else .finite negative (Nat.pow 2 52 + fraction) ((exponent : Int) - 1075)

def infinity : Float := Float.ofBits 0x7ff0000000000000

def nan : Float := Float.ofBits 0x7ff8000000000000

/-- The bits of infinity, above those of every finite magnitude. -/
def infinityBits : Nat := 0x7ff0000000000000

/-- Is `2 ^ k` at most `num / den`? -/
def powerLe (k : Int) (num den : Nat) : Bool :=
  if 0 ≤ k then den * Nat.pow 2 k.toNat ≤ num else den ≤ num * Nat.pow 2 (-k).toNat

/-- The largest `k` with `2 ^ k ≤ num / den`, for positive `num` and `den`. The logarithms of the
two determine it up to one. -/
def floorLog (num den : Nat) : Int :=
  let k : Int := (Nat.log2 num : Int) - Nat.log2 den
  if powerLe k num den then k else k - 1

/-- The quotient rounded to the nearest integer, a tie to the even one. -/
def roundQuotient (num den : Nat) : Nat :=
  let q := num / den
  let twice := 2 * (num % den)
  if den < twice || (twice = den && q % 2 = 1) then q + 1 else q

/-- The bits of the magnitude nearest to `num / den`, where a carry out of the mantissa runs into
the exponent. -/
def magnitudeBits (num den : Nat) : Nat :=
  if num = 0 then 0
  else
    let k := floorLog num den
    if 1024 ≤ k then infinityBits
    else
      let q : Int := max (k - 52) (-1074)
      let m :=
        if 0 ≤ q then roundQuotient num (den * Nat.pow 2 q.toNat)
        else roundQuotient (num * Nat.pow 2 (-q).toNat) den
      min infinityBits ((q + 1074).toNat * Nat.pow 2 52 + m)

/-- The binary64 number nearest to `± num / den`, for positive `den`. -/
def ofRatio (negative : Bool) (num den : Nat) : Float :=
  let bits := magnitudeBits num den
  Float.ofBits (UInt64.ofNat (if negative then Nat.pow 2 63 + bits else bits))

/-- The binary64 number nearest to `± m · 2 ^ e`. -/
def ofScaled (negative : Bool) (m : Nat) (e : Int) : Float :=
  if 0 ≤ e then ofRatio negative (m * Nat.pow 2 e.toNat) 1
  else ofRatio negative m (Nat.pow 2 (-e).toNat)

/-- The binary64 number nearest to an integer, unless all finite ones are too small. -/
def ofInt? (n : Int) : Option Float :=
  if magnitudeBits n.natAbs 1 = infinityBits then none else some (ofRatio (n < 0) n.natAbs 1)

/-- The integer that a number is, if it is one. -/
def toInt? (x : Float) : Option Int :=
  match parts x with
  | .finite negative m e =>
    if 0 ≤ e then
      let n : Int := (m * Nat.pow 2 e.toNat : Nat)
      some (if negative then -n else n)
    else if m % Nat.pow 2 (-e).toNat = 0 then
      let n : Int := (m / Nat.pow 2 (-e).toNat : Nat)
      some (if negative then -n else n)
    else none
  | _ => none

def isNegative (x : Float) : Bool := x.toBits.toNat / Nat.pow 2 63 = 1

/-- A zero with the sign of `x`. -/
def zeroLike (x : Float) : Float := if isNegative x then -0.0 else 0.0

/-- The remainder of a division that rounds the quotient down, so that it has the sign of the
divisor; the divisor is not zero. The remainder of the magnitudes is exact, and the divisor is
added where the signs differ. -/
def modulo (x y : Float) : Float :=
  let adjust (r : Float) : Float :=
    if r == 0 then zeroLike y else if isNegative r != isNegative y then r + y else r
  match parts x, parts y with
  | .nan, _ => nan
  | _, .nan => nan
  | .infinite _, _ => nan
  | .finite _ _ _, .infinite _ => adjust x
  | .finite negative m e, .finite _ n f =>
    let low := min e f
    let r := (m * Nat.pow 2 (e - low).toNat) % (n * Nat.pow 2 (f - low).toNat)
    adjust (ofScaled negative r low)

theorem powerLe_of_nonneg {k : Int} (num den : Nat) (h : 0 ≤ k) :
    powerLe k num den = decide (den * Nat.pow 2 k.toNat ≤ num) := by
  simp [powerLe, h]

theorem roundQuotient_of_dvd {num den : Nat} (hd : 0 < den) (h : num % den = 0) :
    roundQuotient num den = num / den := by
  simp only [roundQuotient, h]
  split
  · next hc => simp at hc; omega
  · rfl

end Binary64

end Stagecraft
