import Stagecraft.Number.Decimal
import Stagecraft.Settings.Tree

/-!
# Numbers in settings

A number is written as a whole part, which does not begin with a zero unless it is one, and may have
a fraction and an exponent. Without either it is an integer. Some notations let single underscores
stand between digits.
-/

namespace Stagecraft

namespace SettingNumber

/-- The digits that go on a run of them, and the rest. Underscores are dropped. -/
def moreDigits (separated : Bool) (isDigit : Char → Bool) : List Char → List Char × List Char
  | [] => ([], [])
  | '_' :: cs =>
    match cs with
    | d :: _ => if separated && isDigit d then moreDigits separated isDigit cs else ([], '_' :: cs)
    | [] => ([], ['_'])
  | c :: cs =>
    if isDigit c then
      let (ds, rest) := moreDigits separated isDigit cs
      (c :: ds, rest)
    else ([], c :: cs)

def digitRun (separated : Bool) (isDigit : Char → Bool) (cs : List Char) : List Char × List Char :=
  match cs with
  | '_' :: _ => ([], cs)
  | _ => moreDigits separated isDigit cs

/-- The digits before fraction and exponent. -/
def whole (separated : Bool) (cs : List Char) : List Char × List Char :=
  match cs with
  | '0' :: rest => (['0'], rest)
  | _ => digitRun separated Char.isDigit cs

/-- The digits of a fraction, none if there is no fraction. -/
def fraction (separated : Bool) (cs : List Char) : List Char × List Char :=
  match cs with
  | '.' :: more =>
    let (ds, rest) := digitRun separated Char.isDigit more
    if ds.isEmpty then ([], cs) else (ds, rest)
  | _ => ([], cs)

def exponent (separated : Bool) (cs : List Char) : Option Int × List Char :=
  match cs with
  | [] => (none, [])
  | c :: more =>
    if c = 'e' || c = 'E' then
      let (negative, body) := Numeral.takeSign more
      let (ds, rest) := digitRun separated Char.isDigit body
      let n : Int := Numeral.digitsValue ds
      if ds.isEmpty then (none, cs) else (some (if negative then -n else n), rest)
    else (none, cs)

/-- A number that stands after its sign. -/
inductive Read where
  | missing
  | tooLong
  | number (t : SettingTree) (rest : List Char)

/-- Reads a number after its sign. An integer must not have too many digits. -/
def read (separated negative : Bool) (cs : List Char) : Read :=
  let (ds, rest) := whole separated cs
  if ds.isEmpty then .missing
  else
    let (fs, rest) := fraction separated rest
    let (e, rest) := exponent separated rest
    if fs.isEmpty && e.isNone then
      let n : Int := Numeral.digitsValue ds
      if Numeral.digitLimit < ds.length then .tooLong
      else .number (.integer (if negative then -n else n)) rest
    else
      let scale := e.getD 0 - fs.length
      .number (.real (Decimal.finite negative (Numeral.digitsValue (ds ++ fs)) scale).toFloat) rest

end SettingNumber

end Stagecraft
