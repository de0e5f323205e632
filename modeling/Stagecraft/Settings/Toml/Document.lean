import Stagecraft.Settings.Toml.Value

/-!
# Settings files

A settings file is made of lines, each empty but for blanks and a comment, or with an entry or the
head of a section. The entries after a head belong to the table that it names. Two characters that
end a line together count as one.
-/

namespace Stagecraft

namespace Toml

/-- Makes the ends of lines uniform. -/
def joinLineEnds : List Char → List Char
  | '\r' :: '\n' :: cs => '\n' :: joinLineEnds cs
  | c :: cs => c :: joinLineEnds cs
  | [] => []

/-- A settings file that has been read up to some line: the number and the table of the section that
the line is in, and all tables. -/
structure Progress where
  sectionNumber : Nat := 0
  place : List String := []
  tables : Catalog Draft := []

namespace Progress

/-- A path without its last part, and that. -/
def split? (path : List String) : Option (List String × String) :=
  path.getLast?.map (path.dropLast, ·)

/-- Begins the section whose table is at a path. -/
def begin (p : Progress) (path : List String)
    (change : Nat → String → Catalog Draft → Except Fault (Catalog Draft)) :
    Except Fault Progress :=
  match split? path with
  | none => malformed
  | some (outer, last) => do
    let n := p.sectionNumber + 1
    return ⟨n, path, ← Draft.within (change n last) outer p.tables⟩

/-- Reads the head of a section after its first bracket. -/
def head (p : Progress) (cs : List Char) : Except Fault (Progress × List Char) :=
  match cs with
  | '[' :: more => do
    let (path, rest) ← key (skip more)
    let p ← p.begin path fun _ => Draft.openRow
    match rest with
    | ']' :: ']' :: rest => return (p, rest)
    | _ => malformed
  | _ => do
    let (path, rest) ← key (skip cs)
    let p ← p.begin path Draft.openTable
    match rest with
    | ']' :: rest => return (p, rest)
    | _ => malformed

def entry (p : Progress) (cs : List Char) : Except Fault (Progress × List Char) := do
  let (parts, rest) ← key cs
  match rest with
  | '=' :: rest =>
    let (v, rest) ← value (2 * rest.length + 2) (skip rest)
    let tables ← Draft.within (Draft.assign p.sectionNumber v parts) p.place p.tables
    return ({ p with tables }, rest)
  | _ => malformed

/-- Reads what a line holds before its comment. -/
def statement (p : Progress) (cs : List Char) : Except Fault (Progress × List Char) :=
  match cs with
  | [] => .ok (p, [])
  | c :: more =>
    if startsKey c then p.entry cs
    else if c = '[' then p.head more
    else if c = '#' || c = '\n' then .ok (p, cs)
    else malformed

/-- Reads all lines, at most as many as there are characters. -/
def lines (p : Progress) : Nat → List Char → Except Fault Progress
  | 0, _ => .ok p
  | bound + 1, cs => do
    let (p, rest) ← p.statement (skip cs)
    match ← skipComment (skip rest) with
    | [] => return p
    | '\n' :: rest => lines p bound rest
    | _ => malformed

end Progress

def ofString (s : String) : Except Fault SettingLayer := do
  let cs := joinLineEnds s.toList
  let p ← ({} : Progress).lines (cs.length + 1) cs
  return Draft.layer p.tables

end Toml

end Stagecraft
