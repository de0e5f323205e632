import Stagecraft.Settings.Number
import Stagecraft.Settings.Toml.Draft
import Stagecraft.Settings.Toml.Key
import Stagecraft.Settings.Toml.Moment

/-!
# Values of settings files

A value is a text, a truth value, a number, a moment, a list or a table within a line. Lists may go
over many lines and hold comments, tables within a line may not.
-/

namespace Stagecraft

namespace Toml

/-- The rest after a comment, if there is one. It begins with an end of line. -/
def skipComment (cs : List Char) : Except Fault (List Char) :=
  match cs with
  | '#' :: more =>
    if (more.takeWhile (· ≠ '\n')).any (isIllegal false) then malformed
    else .ok (more.dropWhile (· ≠ '\n'))
  | _ => .ok cs

/-- The rest after blanks, ends of lines and comments. -/
def skipLines (comment : Bool) : List Char → Except Fault (List Char)
  | [] => .ok []
  | c :: cs =>
    if comment then
      if c = '\n' then skipLines false cs
      else if isIllegal false c then malformed
      else skipLines true cs
    else if isSpace c || c = '\n' then skipLines false cs
    else if c = '#' then skipLines true cs
    else .ok (c :: cs)

/-- Values that are words. -/
def words : List (String × SettingTree) :=
  [("true", .truth true), ("false", .truth false), ("inf", .real Binary64.infinity),
   ("nan", .real Binary64.nan), ("+inf", .real Binary64.infinity),
   ("-inf", .real (-Binary64.infinity)), ("+nan", .real Binary64.nan),
   ("-nan", .real Binary64.nan)]

/-- The bases of integers without sign, with the letter after the zero and the digits. -/
def bases : List (Char × Nat × (Char → Bool)) :=
  [('x', 16, fun c => (Text.hexValue? c).isSome), ('b', 2, fun c => c = '0' || c = '1'),
   ('o', 8, fun c => '0' ≤ c && c ≤ '7')]

/-- An integer in another base than ten. -/
def based? (cs : List Char) : Option (SettingTree × List Char) :=
  match cs with
  | '0' :: letter :: more => do
    let (base, isDigit) ← bases.lookup letter
    let (ds, rest) := SettingNumber.digitRun true isDigit more
    if ds.isEmpty then none
    else some (.integer (Text.ofDigits base (ds.filterMap Text.hexValue?)), rest)
  | _ => none

/-- A number. One with too many digits has no value. -/
def number (cs : List Char) : Reading SettingTree :=
  match based? cs with
  | some r => .ok r
  | none =>
    let (negative, body) := Numeral.takeSign cs
    match SettingNumber.read true negative body with
    | .number t rest => .ok (t, rest)
    | .tooLong => .error .badValue
    | .missing => malformed

def scalar (cs : List Char) : Reading SettingTree :=
  let written (rest : List Char) : SettingTree :=
    .foreign (String.ofList (cs.take (cs.length - rest.length)))
  match Moment.day? cs, Moment.clock? cs with
  | some (isDay, rest), _ => if isDay then .ok (written rest, rest) else malformed
  | none, some rest => .ok (written rest, rest)
  | none, none =>
    match words.find? fun w => w.1.toList.isPrefixOf cs with
    | some w => .ok (w.2, cs.drop w.1.length)
    | none => number cs

mutual

/-- A value and the rest. The bound on the depth is not reached when it is twice the length. -/
def value : Nat → List Char → Except Fault (SettingTree × List Char)
  | 0, _ => malformed
  | depth + 1, cs =>
    match cs with
    | '[' :: more => do
      match ← skipLines false more with
      | ']' :: rest => return (.list [], rest)
      | more =>
        let (items, rest) ← items depth more
        return (.list items, rest)
    | '\x7b' :: more =>
      match skip more with
      | '\x7d' :: rest => .ok (.table [], rest)
      | more => do
        let (entries, rest) ← entries depth [] more
        return (.table (Draft.layer entries), rest)
    | c :: _ =>
      if c = '"' || c = '\'' then (text cs).map fun r => (.text r.1, r.2) else scalar cs
    | [] => malformed

/-- The items of a list up to its end. A comma may stand after the last. -/
def items : Nat → List Char → Except Fault (List SettingTree × List Char)
  | 0, _ => malformed
  | depth + 1, cs => do
    let (item, rest) ← value depth cs
    match ← skipLines false rest with
    | ']' :: rest => return ([item], rest)
    | ',' :: rest =>
      match ← skipLines false rest with
      | ']' :: rest => return ([item], rest)
      | rest =>
        let (more, rest) ← items depth rest
        return (item :: more, rest)
    | _ => malformed

/-- The entries of a table within a line up to its end. -/
def entries : Nat → Catalog Draft → List Char → Except Fault (Catalog Draft × List Char)
  | 0, _, _ => malformed
  | depth + 1, known, cs => do
    let (parts, rest) ← key cs
    match rest with
    | '=' :: rest =>
      let (item, rest) ← value depth (skip rest)
      let known ← Draft.assign 0 item parts known
      match skip rest with
      | '\x7d' :: rest => return (known, rest)
      | ',' :: rest => entries depth known (skip rest)
      | _ => malformed
    | _ => malformed

end

end Toml

end Stagecraft
