import Stagecraft.Fault
import Stagecraft.Text.Digit

/-!
# Keys and texts of settings files

The texts of a settings file stand between quotes. Between double quotes a backslash escapes,
between single quotes everything stands for itself; three quotes hold more than one line. A key is a
path of parts with dots between them, each a text on one line or a bare word.
-/

namespace Stagecraft

namespace Toml

/-- What was read and what follows. -/
abbrev Reading (α : Type) := Except Fault (α × List Char)

/-- The one thing that is said of a file that is not well-formed. -/
def malformed {α : Type} : Except Fault α := .error .configText

/-- A blank within a line. -/
def isSpace (c : Char) : Bool := c = ' ' || c = '\t'

/-- The characters from the first that is not blank. -/
def skip (cs : List Char) : List Char := cs.dropWhile isSpace

/-- A control character that neither texts nor comments may hold. Texts of many lines may hold the
ends of lines. -/
def isIllegal (lines : Bool) (c : Char) : Bool :=
  (c.toNat < 32 || c.toNat = 127) && c ≠ '\t' && !(lines && c = '\n')

/-- The character whose code hexadecimal digits write. -/
def charOfHex? (ds : List Char) : Option Char := do
  let code ← Text.ofHex? ds
  if h : code.isValidChar then some (Char.ofNatAux code h) else none

/-- The character that an escape of one letter stands for. -/
def escape? : Char → Option Char
  | 'b' => some (Char.ofNat 8)
  | 't' => some '\t'
  | 'n' => some '\n'
  | 'f' => some (Char.ofNat 12)
  | 'r' => some '\r'
  | '"' => some '"'
  | '\\' => some '\\'
  | _ => none

def prepend (c : Option Char) (rest : Reading (List Char)) : Reading (List Char) :=
  match c with
  | some c => rest.map fun r => (c :: r.1, r.2)
  | none => malformed

/-- A text between double quotes, after the opening ones. A backslash at the end of a line takes it
out together with all blanks that follow (`trimming`). -/
def escaped (lines : Bool) : Bool → List Char → Reading (List Char)
  | _, [] => malformed
  | trimming, c :: cs =>
    if trimming && (isSpace c || c = '\n') then escaped lines true cs
    else if c = '"' then
      if !lines then .ok ([], cs)
      else
        match cs with
        | '"' :: '"' :: rest => .ok ([], rest)
        | _ => prepend (some c) (escaped lines false cs)
    else if c = '\\' then
      match cs with
      | 'u' :: a :: b :: c :: d :: rest =>
        prepend (charOfHex? [a, b, c, d]) (escaped lines false rest)
      | 'U' :: a :: b :: c :: d :: e :: f :: g :: h :: rest =>
        prepend (charOfHex? [a, b, c, d, e, f, g, h]) (escaped lines false rest)
      | e :: rest =>
        if lines && (isSpace e || e = '\n') then
          if (skip (e :: rest)).head? = some '\n' then escaped lines true rest else malformed
        else prepend (escape? e) (escaped lines false rest)
      | [] => malformed
    else if isIllegal lines c then malformed
    else prepend (some c) (escaped lines false cs)

/-- The characters up to three single quotes, and what follows those. -/
def untilTriple : List Char → Option (List Char × List Char)
  | [] => none
  | c :: cs =>
    match c, cs with
    | '\'', '\'' :: '\'' :: rest => some ([], rest)
    | _, _ => (untilTriple cs).map fun r => (c :: r.1, r.2)

/-- A text between single quotes, after the opening ones. -/
def verbatim (lines : Bool) (cs : List Char) : Reading (List Char) :=
  let found :=
    if lines then untilTriple cs
    else
      match cs.dropWhile (· ≠ '\'') with
      | _ :: rest => some (cs.takeWhile (· ≠ '\''), rest)
      | [] => none
  match found with
  | some r => if r.1.any (isIllegal lines) then malformed else .ok r
  | none => malformed

/-- Up to two more quotes at the end of a text of many lines belong to it. -/
def moreQuotes (quote : Char) (r : List Char × List Char) : String × List Char :=
  let extra := (r.2.take 2).takeWhile (· = quote)
  (String.ofList (r.1 ++ extra), r.2.drop extra.length)

/-- An end of line right after the opening quotes does not count. -/
def firstLine (cs : List Char) : List Char :=
  match cs with
  | '\n' :: rest => rest
  | _ => cs

def lineText (cs : List Char) : Reading String :=
  match cs with
  | '"' :: rest => (escaped false false rest).map fun r => (String.ofList r.1, r.2)
  | '\'' :: rest => (verbatim false rest).map fun r => (String.ofList r.1, r.2)
  | _ => malformed

def text (cs : List Char) : Reading String :=
  match cs with
  | '"' :: '"' :: '"' :: rest => (escaped true false (firstLine rest)).map (moreQuotes '"')
  | '\'' :: '\'' :: '\'' :: rest => (verbatim true (firstLine rest)).map (moreQuotes '\'')
  | _ => lineText cs

/-- A character of bare words. -/
def isBare (c : Char) : Bool := c.isAlphanum || c = '-' || c = '_'

/-- Can a key begin with the character? -/
def startsKey (c : Char) : Bool := isBare c || c = '"' || c = '\''

def keyPart (cs : List Char) : Reading String :=
  let word := cs.takeWhile isBare
  if word.isEmpty then lineText cs else .ok (String.ofList word, cs.drop word.length)

/-- The parts of a key with dots between them, at most as many as characters. -/
def keyParts : Nat → List Char → Except Fault (List String × List Char)
  | 0, _ => malformed
  | bound + 1, cs => do
    let (part, rest) ← keyPart cs
    match skip rest with
    | '.' :: rest => (keyParts bound (skip rest)).map fun r => (part :: r.1, r.2)
    | rest => return ([part], rest)

/-- A key. Blanks after it are skipped. -/
def key (cs : List Char) : Reading (List String) := keyParts cs.length cs

end Toml

end Stagecraft
