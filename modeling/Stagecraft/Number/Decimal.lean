import Stagecraft.Number.Binary64
import Stagecraft.Text.Blank
import Stagecraft.Text.Digit

/-!
# Decimal numerals

The numerals of attribute values, with the digits of any script and single underscores between
digits. A real numeral denotes `± digits · 10 ^ scale` exactly and is then rounded once to binary64
(`Decimal.toFloat`); an integer numeral denotes an integer of any size, up to a limit on the number
of its digits.
-/

namespace Stagecraft

inductive Decimal where
  | finite (negative : Bool) (digits : Nat) (scale : Int)
  | infinite (negative : Bool)
  | nan
  deriving Repr, DecidableEq

namespace Decimal

/-- The nearest binary64 number. Scales so large or small that the result is beyond every finite
number, or below half the least, are not computed with. -/
def toFloat : Decimal → Float
  | .infinite negative => if negative then -Binary64.infinity else Binary64.infinity
  | .nan => Binary64.nan
  | .finite negative digits scale =>
    if digits = 0 then (if negative then -0.0 else 0.0)
    else if 400 < scale then (if negative then -Binary64.infinity else Binary64.infinity)
    else if 0 ≤ scale then Binary64.ofRatio negative (digits * Nat.pow 10 scale.toNat) 1
    else if 400 + Nat.log2 digits / 3 + 1 < (-scale).toNat then (if negative then -0.0 else 0.0)
    else Binary64.ofRatio negative digits (Nat.pow 10 (-scale).toNat)

end Decimal

namespace Numeral

/-- What may surround a numeral. The information separators are blanks in all other places. -/
def isPadding (c : Char) : Bool := Text.isBlank c && !(28 ≤ c.toNat && c.toNat < 32)

/-- A numeral without the blanks around it. -/
def trim (cs : List Char) : List Char :=
  ((cs.dropWhile isPadding).reverse.dropWhile isPadding).reverse

/-- A numeral with its digits replaced by the ASCII ones. -/
def toAscii (cs : List Char) : List Char :=
  cs.map fun c =>
    match Text.digitValue? c with
    | some d => Char.ofNat (48 + d)
    | none => c

/-- Takes out underscores. Each must stand between two digits; `before` tells whether the
character in front is a digit. -/
def dropUnderscores (before : Bool) : List Char → Option (List Char)
  | [] => some []
  | '_' :: cs =>
    match cs with
    | d :: _ => if before && d.isDigit then dropUnderscores false cs else none
    | [] => none
  | c :: cs => (dropUnderscores c.isDigit cs).map (c :: ·)

/-- A sign, if one stands in front: is it a minus? -/
def takeSign : List Char → Bool × List Char
  | '-' :: cs => (true, cs)
  | '+' :: cs => (false, cs)
  | cs => (false, cs)

def takeDigits (cs : List Char) : List Char × List Char :=
  (cs.takeWhile Char.isDigit, cs.dropWhile Char.isDigit)

def digitsValue (ds : List Char) : Nat := Text.ofDigits 10 (ds.map fun c => c.toNat - 48)

/-- An optional exponent that ends the numeral. -/
def exponent? : List Char → Option Int
  | [] => some 0
  | c :: cs =>
    if c = 'e' || c = 'E' then
      let (negative, ds) := takeSign cs
      if ds.isEmpty || !ds.all Char.isDigit then none
      else some (if negative then -(digitsValue ds : Int) else digitsValue ds)
    else none

/-- A numeral without sign: digits with an optional fraction and exponent. At least one digit
stands before the exponent. -/
def unsigned? (negative : Bool) (cs : List Char) : Option Decimal :=
  let (whole, rest) := takeDigits cs
  let (fraction, rest) :=
    match rest with
    | '.' :: more => takeDigits more
    | _ => ([], rest)
  if whole.isEmpty && fraction.isEmpty then none
  else
    (exponent? rest).map fun e =>
      .finite negative (digitsValue (whole ++ fraction)) (e - fraction.length)

/-- The real numeral that characters are: a sign, and then digits or a word for what is not
finite. -/
def plain? (cs : List Char) : Option Decimal :=
  let (negative, body) := takeSign cs
  let word := String.ofList (body.map Char.toLower)
  if word = "inf" || word = "infinity" then some (.infinite negative)
  else if word = "nan" then some .nan
  else unsigned? negative body

/-- The real numeral that a whole text is, with blanks around it. -/
def decimal? (s : String) : Option Decimal :=
  (dropUnderscores false (toAscii (trim s.toList))).bind plain?

def float? (s : String) : Option Float := (decimal? s).map Decimal.toFloat

/-- Integer numerals with more digits than this are refused. -/
def digitLimit : Nat := 4300

/-- The integer that a run of digits, single underscores between them, denotes after its sign. -/
def integerChars? (cs : List Char) : Option Int := do
  let (negative, body) := takeSign cs
  let ds ← dropUnderscores false body
  if ds.isEmpty || !ds.all Char.isDigit || digitLimit < ds.length then none
  else some (if negative then -(digitsValue ds : Int) else digitsValue ds)

/-- The integer that a whole text denotes, with blanks around it. -/
def int? (s : String) : Option Int := integerChars? (toAscii (trim s.toList))

theorem takeDigits_append (cs : List Char) : (takeDigits cs).1 ++ (takeDigits cs).2 = cs := by
  simp [takeDigits]

end Numeral

end Stagecraft
