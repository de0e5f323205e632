import Stagecraft.Number.Binary64

/-!
# General number text

Numbers in summaries: at most six significant digits, rounded from the exact value with ties to
even, without trailing zeros, positional unless the leading digit stands below the fourth decimal
place or beyond the sixth digit.
-/

namespace Stagecraft

namespace General

/-- Significant digits shown. -/
def precision : Nat := 6

/-- Is `10 ^ k` at most `num / den`? -/
def tenPowerLe (k : Int) (num den : Nat) : Bool :=
  if 0 ≤ k then den * Nat.pow 10 k.toNat ≤ num else den ≤ num * Nat.pow 10 (-k).toNat

/-- The decimal exponent of a positive quotient, searched downwards from a bound above it. -/
def floorLogTen (num den : Nat) : Nat → Int → Int
  | 0, k => k
  | fuel + 1, k => if tenPowerLe k num den then k else floorLogTen num den fuel (k - 1)

/-- The six leading digits of a positive quotient and the exponent of the first. Rounding up past
the last six-digit number starts the next decade. -/
def leading (num den : Nat) : Nat × Int :=
  let k := floorLogTen num den 700 330
  let shift : Int := k - (precision - 1)
  let m :=
    if 0 ≤ shift then Binary64.roundQuotient num (den * Nat.pow 10 shift.toNat)
    else Binary64.roundQuotient (num * Nat.pow 10 (-shift).toNat) den
  if m = Nat.pow 10 precision then (Nat.pow 10 (precision - 1), k + 1) else (m, k)

/-- Digits without the zeros at their end. -/
def trimZeros (ds : List Char) : List Char := (ds.reverse.dropWhile (· = '0')).reverse

/-- Digits with a point after the first `whole` of them, which is left out before nothing. -/
def withPoint (whole : Nat) (ds : List Char) : List Char :=
  let fraction := trimZeros (ds.drop whole)
  if fraction.isEmpty then ds.take whole else ds.take whole ++ '.' :: fraction

/-- A decimal exponent: a sign and at least two digits. -/
def exponentText (k : Int) : List Char :=
  let ds := Nat.toDigits 10 k.natAbs
  'e' :: (if k < 0 then '-' else '+') :: (if ds.length < 2 then '0' :: ds else ds)

def magnitudeText (num den : Nat) : List Char :=
  let (m, k) := leading num den
  let ds := Nat.toDigits 10 m
  if k < -4 || (precision : Int) ≤ k then withPoint 1 ds ++ exponentText k
  else if 0 ≤ k then withPoint (k.toNat + 1) ds
  else withPoint 1 (List.replicate (-k).toNat '0' ++ ds)

/-- The text of a number in a summary. -/
def text (x : Float) : String :=
  match Binary64.parts x with
  | .nan => "nan"
  | .infinite negative => if negative then "-inf" else "inf"
  | .finite negative m e =>
    let body :=
      if m = 0 then ['0']
      else if 0 ≤ e then magnitudeText (m * Nat.pow 2 e.toNat) 1
      else magnitudeText m (Nat.pow 2 (-e).toNat)
    String.ofList (if negative then '-' :: body else body)

end General

end Stagecraft
