import Stagecraft.Settings.Number

/-!
# JSON settings

Variables may hold tables and lists as JSON texts. Besides JSON numbers the words for infinities and
for what is no number are read. Of two entries with one key the later counts. A text with half of a
surrogate pair is no text of characters, so it, or a table that has it as a key, is of no use.
-/

namespace Stagecraft

namespace SettingTree

namespace Json

def isSpace (c : Char) : Bool := c = ' ' || c = '\t' || c = '\n' || c = '\r'

/-- The characters from the first that is not blank. -/
def skip (cs : List Char) : List Char := cs.dropWhile isSpace

/-- The code of an escaped character. -/
def escape? : Char → Option Nat
  | '"' => some 34
  | '\\' => some 92
  | '/' => some 47
  | 'b' => some 8
  | 'f' => some 12
  | 'n' => some 10
  | 'r' => some 13
  | 't' => some 9
  | _ => none

/-- The codes of a text after its opening quote, up to the closing one, and the rest. -/
def codes : List Char → Option (List Nat × List Char)
  | [] => none
  | '"' :: cs => some ([], cs)
  | '\\' :: 'u' :: a :: b :: c :: d :: cs =>
    (Text.ofHex? [a, b, c, d]).bind fun code => (codes cs).map fun r => (code :: r.1, r.2)
  | '\\' :: c :: cs => (escape? c).bind fun code => (codes cs).map fun r => (code :: r.1, r.2)
  | c :: cs => if c.toNat < 32 then none else (codes cs).map fun r => (c.toNat :: r.1, r.2)

def isHigh (code : Nat) : Bool := 0xd800 ≤ code && code < 0xdc00

def isLow (code : Nat) : Bool := 0xdc00 ≤ code && code < 0xe000

/-- Joins the two halves of surrogate pairs. -/
def joinPairs : List Nat → List Nat
  | a :: b :: rest =>
    if isHigh a && isLow b then (0x10000 + (a - 0xd800) * 0x400 + (b - 0xdc00)) :: joinPairs rest
    else a :: joinPairs (b :: rest)
  | codes => codes

/-- The text with these codes, unless half of a pair is among them. -/
def text? (codes : List Nat) : Option String :=
  let codes := joinPairs codes
  if codes.any fun c => isHigh c || isLow c then none
  else some (String.ofList (codes.map Char.ofNat))

/-- Values that are words. -/
def words : List (String × SettingTree) :=
  [("null", .null), ("true", .truth true), ("false", .truth false), ("NaN", .real Binary64.nan),
   ("Infinity", .real Binary64.infinity), ("-Infinity", .real (-Binary64.infinity))]

def scalar (cs : List Char) : Option (SettingTree × List Char) :=
  match words.find? fun w => w.1.toList.isPrefixOf cs with
  | some w => some (w.2, cs.drop w.1.length)
  | none =>
    let (negative, body) :=
      match cs with
      | '-' :: more => (true, more)
      | _ => (false, cs)
    match SettingNumber.read false negative body with
    | .number t rest => some (t, rest)
    | _ => none

/-- The table with these entries. -/
def tableOf (entries : List (Option String × SettingTree)) : SettingTree :=
  match entries.mapM fun e => e.1.map (·, e.2) with
  | some entries => .table (Catalog.putAll [] entries)
  | none => .foreign "..."

mutual

/-- A value and the rest. The bound on the depth is not reached when it is twice the length. -/
def value : Nat → List Char → Option (SettingTree × List Char)
  | 0, _ => none
  | depth + 1, cs =>
    match cs with
    | '"' :: cs => (codes cs).map fun r => (((text? r.1).map .text).getD (.foreign "..."), r.2)
    | '[' :: cs =>
      match skip cs with
      | ']' :: rest => some (.list [], rest)
      | cs => (items depth cs).map fun r => (.list r.1, r.2)
    | '\x7b' :: cs =>
      match skip cs with
      | '\x7d' :: rest => some (.table [], rest)
      | cs => (entries depth cs).map fun r => (tableOf r.1, r.2)
    | cs => scalar cs

/-- The items of a list up to its end. -/
def items : Nat → List Char → Option (List SettingTree × List Char)
  | 0, _ => none
  | depth + 1, cs => do
    let (item, rest) ← value depth cs
    match skip rest with
    | ']' :: rest => some ([item], rest)
    | ',' :: rest => (items depth (skip rest)).map fun r => (item :: r.1, r.2)
    | _ => none

/-- The entries of a table up to its end. -/
def entries : Nat → List Char → Option (List (Option String × SettingTree) × List Char)
  | 0, _ => none
  | depth + 1, cs =>
    match cs with
    | '"' :: cs => do
      let (key, rest) ← codes cs
      match skip rest with
      | ':' :: rest => do
        let (item, rest) ← value depth (skip rest)
        match skip rest with
        | '\x7d' :: rest => some ([(text? key, item)], rest)
        | ',' :: rest =>
          (entries depth (skip rest)).map fun r => ((text? key, item) :: r.1, r.2)
        | _ => none
      | _ => none
    | _ => none

end

end Json

/-- The value that a whole JSON text is. -/
def ofJson? (s : String) : Option SettingTree := do
  let cs := s.toList
  let (t, rest) ← Json.value (2 * cs.length + 2) (Json.skip cs)
  if (Json.skip rest).isEmpty then some t else none

end SettingTree

end Stagecraft
