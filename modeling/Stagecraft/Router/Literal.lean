import Stagecraft.Router.Token

/-!
# Quoted texts

What a quoted text of a router expression denotes: the escapes are resolved (`Quotation.codes?`),
and of a formatted text the expressions inside its braces are found (`Quotation.expressions?`).
Characters may be written by their names, which are known to the platform.
-/

namespace Stagecraft

namespace Router

/-- The names of characters, as the platform knows them. -/
class CharacterNames where
  named? : String → Option Char

namespace Quotation

/-- The code point of an escape by a single letter. -/
def letterEscape? (c : Char) : Option Nat :=
  match c with
  | '\\' => some 92
  | '\'' => some 39
  | '"' => some 34
  | 'a' => some 7
  | 'b' => some 8
  | 'f' => some 12
  | 'n' => some 10
  | 'r' => some 13
  | 't' => some 9
  | 'v' => some 11
  | _ => none

def isOctal (c : Char) : Bool := '0' ≤ c && c ≤ '7'

/-- The number that a fixed count of hexadecimal digits writes, and the rest. -/
def hexEscape? (count : Nat) (cs : List Char) : Option (Nat × List Char) :=
  let ds := cs.take count
  if ds.length = count then (Text.ofHex? ds).map (·, cs.drop count) else none

/-- A name in braces, and the rest. -/
def bracedName? (cs : List Char) : Option (List Char × List Char) :=
  match cs with
  | '{' :: more =>
    match more.dropWhile (· ≠ '}') with
    | _ :: rest => some (more.takeWhile (· ≠ '}'), rest)
    | [] => none
  | _ => none

theorem length_of_bracedName? {cs name rest : List Char} (h : bracedName? cs = some (name, rest)) :
    rest.length < cs.length := by
  unfold bracedName? at h
  split at h
  · rename_i more
    split at h
    · rename_i c tail heq
      have hle := (List.dropWhile_sublist (· ≠ '}') (l := more)).length_le
      obtain ⟨-, rfl⟩ := by simpa using h
      rw [heq] at hle
      simp only [List.length_cons] at hle ⊢
      omega
    · simp at h
  · simp at h

variable [CharacterNames]

/-- The code point of a character that is written by its name, and the rest. -/
def namedEscape? (cs : List Char) : Option (Nat × List Char) := do
  let (name, rest) ← bracedName? cs
  if name.isEmpty then none
  else return ((← CharacterNames.named? (String.ofList name)).toNat, rest)

/-- Resolves the escapes of a text. Unknown ones stand for themselves. -/
def resolve? (bytes : Bool) : Nat → List Char → Option (List Nat)
  | 0, _ => some []
  | _, [] => some []
  | n + 1, '\\' :: c :: cs =>
    let coded (escape : Option (Nat × List Char)) : Option (List Nat) := do
      let (code, rest) ← escape
      if 0x10ffff < code then none else return code :: (← resolve? bytes n rest)
    if c = '\n' then resolve? bytes n cs
    else if isOctal c then
      let ds := c :: (cs.takeWhile isOctal).take 2
      let code := Text.ofDigits 8 (ds.map Token.digitOf)
      coded (some (if bytes then code % 256 else code, cs.drop (ds.length - 1)))
    else if c = 'x' then coded (hexEscape? 2 cs)
    else if c = 'u' && !bytes then coded (hexEscape? 4 cs)
    else if c = 'U' && !bytes then coded (hexEscape? 8 cs)
    else if c = 'N' && !bytes then coded (namedEscape? cs)
    else
      match letterEscape? c with
      | some code => coded (some (code, cs))
      | none => (resolve? bytes n (c :: cs)).map (92 :: ·)
  | _, ['\\'] => some [92]
  | n + 1, c :: cs => (resolve? bytes n cs).map (c.toNat :: ·)

/-- The code points of a text that is not formatted. -/
def codes? (q : Quotation) : Option (List Nat) :=
  if q.bytes && q.body.any (128 ≤ ·.toNat) then none
  else if q.raw then some (q.body.map Char.toNat)
  else resolve? q.bytes q.body.length q.body

/-- What a formatted text is read up to: a literal piece, and what comes next. At the top braces
are doubled to stand for themselves; those around the name of a character belong to the piece. -/
def literal? (raw nested : Bool) : List Char → Option (List Char × List Char)
  | [] => some ([], [])
  | c :: cs =>
    let add (piece : List Char) (rest : Option (List Char × List Char)) :=
      rest.map fun (piece', rest) => (piece ++ piece', rest)
    if c = '\\' && !raw then
      match cs with
      | [] => some ([c], [])
      | d :: rest =>
        if d = 'N' then
          match h : bracedName? rest with
          | some (name, rest) =>
            have := length_of_bracedName? h
            add (c :: d :: '{' :: (name ++ ['}'])) (literal? raw nested rest)
          | none => none
        else if d = '{' || d = '}' then add [c] (literal? raw nested (d :: rest))
        else add [c, d] (literal? raw nested rest)
    else if c = '{' || c = '}' then
      if nested then some ([], c :: cs)
      else
        match cs with
        | d :: rest =>
          if d = c then add [c] (literal? raw nested rest)
          else if c = '{' then some ([], c :: d :: rest)
          else none
        | [] => if c = '{' then some ([], [c]) else none
    else add [c] (literal? raw nested cs)
termination_by cs => cs.length
decreasing_by all_goals simp only [List.length_cons]; omega

def isOpening (c : Char) : Bool := c = '(' || c = '[' || c = '{'

def isClosing (c : Char) : Bool := c = ')' || c = ']' || c = '}'

def bracketsMatch (a b : Char) : Bool :=
  (a = '(' && b = ')') || (a = '[' && b = ']') || (a = '{' && b = '}')

/-- The text of an expression inside braces, up to the mark that ends it. Brackets and quotes
inside it are followed; backslashes and comments are refused. -/
def expression? : Nat → Option (Char × Bool) → List Char → List Char →
    Option (List Char × List Char)
  | 0, _, _, _ => none
  | _, _, _, [] => none
  | n + 1, quote, brackets, c :: cs =>
    let add (piece : List Char) (rest : Option (List Char × List Char)) :=
      rest.map fun (piece', rest) => (piece ++ piece', rest)
    if c = '\\' then none
    else
      match quote with
      | some (q, triple) =>
        if c ≠ q then add [c] (expression? n quote brackets cs)
        else if !triple then add [c] (expression? n none brackets cs)
        else if [q, q].isPrefixOf cs then add [c, q, q] (expression? n none brackets (cs.drop 2))
        else add [c] (expression? n quote brackets cs)
      | none =>
        if Token.isQuote c then
          if [c, c].isPrefixOf cs then
            add [c, c, c] (expression? n (some (c, true)) brackets (cs.drop 2))
          else add [c] (expression? n (some (c, false)) brackets cs)
        else if isOpening c then
          if Token.depthLimit ≤ brackets.length then none
          else add [c] (expression? n none (c :: brackets) cs)
        else if c = '#' then none
        else if brackets.isEmpty && ['!', ':', '}', '=', '>', '<'].contains c then
          if ['!', '=', '<', '>'].contains c && cs.head? = some '=' then
            add [c, '='] (expression? n none brackets (cs.drop 1))
          else if c = '>' || c = '<' then add [c] (expression? n none brackets cs)
          else some ([], c :: cs)
        else if isClosing c then
          match brackets with
          | b :: more => if bracketsMatch b c then add [c] (expression? n none more cs) else none
          | [] => none
        else add [c] (expression? n none brackets cs)

/-- Characters that count as blanks inside braces. -/
def isGap (c : Char) : Bool := c = ' ' || c = '\t' || c = '\n' || c = '\x0c'

/-- What follows an expression inside braces up to its format: the mark that shows its text, and
a conversion. -/
def conversion? (cs : List Char) : Option (List Char) :=
  let cs :=
    match cs with
    | '=' :: rest => rest.dropWhile fun c => isGap c || c = '\x0b' || c = '\r'
    | _ => cs
  match cs with
  | '!' :: c :: rest => if c = 's' || c = 'r' || c = 'a' then some rest else none
  | ['!'] => none
  | _ => some cs

/-- The expressions of a formatted text from a place on, and what is left: nothing, or in the format
of another expression its closing brace. -/
def pieces? (raw : Bool) : Nat → Nat → List Char → Option (List (List Char) × List Char)
  | 0, _, _ => none
  | n + 1, level, cs => do
    let (piece, rest) ← literal? raw (level ≠ 0) cs
    if !raw && (resolve? false piece.length piece).isNone then none
    match rest with
    | '{' :: rest =>
      if 2 ≤ level then none
      let (text, rest) ← expression? (rest.length + 1) none [] rest
      if text.all isGap then none
      let rest ← conversion? rest
      let (inner, rest) ←
        match rest with
        | ':' :: format => pieces? raw n (level + 1) format
        | _ => some ([], rest)
      match rest with
      | '}' :: rest =>
        let (more, rest) ← pieces? raw n level rest
        return (text :: (inner ++ more), rest)
      | _ => none
    | _ => return ([], rest)

/-- The expressions inside the braces of a formatted text. -/
def expressions? (q : Quotation) : Option (List (List Char)) :=
  match pieces? q.raw (q.body.length + 2) 0 q.body with
  | some (texts, []) => some texts
  | _ => none

end Quotation

end Router

end Stagecraft
