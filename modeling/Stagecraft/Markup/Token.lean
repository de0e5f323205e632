import Stagecraft.Text.Digit

/-!
# Markup tokens

The text of a document cut into tags, texts, comments and processing instructions, with references
resolved. Line ends in content are made uniform; in attribute values a raw tab or line end counts as
a space. Lines are counted by their line feeds alone. Each reader takes the characters left and
returns what is left after it.

In front there may be the document's own declaration, of a version that begins with `1.` and of an
encoding whose characters are those of the text. A document type may be given, by address or with
declarations of elements and notations; what it says is not looked at. Types that define entities or
attributes are not read here.
-/

namespace Stagecraft

namespace Markup

/-- A token of a document. A literal section is text that is taken as it stands. -/
inductive Token where
  | opening (tag : String) (attributes : List (String × String)) (line : Nat) (closed : Bool)
  | closing (tag : String)
  | text (content : String)
  | literal (content : String)
  | comment (content : String)
  | instruction (target content : String)
  | doctype

namespace Token

/-- Carriage returns, alone or before a line feed, become line feeds. -/
def uniformLines : List Char → List Char
  | [] => []
  | '\r' :: '\n' :: cs => '\n' :: uniformLines cs
  | '\r' :: cs => '\n' :: uniformLines cs
  | c :: cs => c :: uniformLines cs

/-- A character that documents may hold. -/
def isAllowed (c : Char) : Bool :=
  let n := c.toNat
  n = 9 || n = 10 || n = 13 || (32 ≤ n && n ≤ 0xd7ff) || (0xe000 ≤ n && n ≤ 0xfffd) || 0x10000 ≤ n

/-- A blank between the parts of a tag. -/
def isSpace (c : Char) : Bool := c = ' ' || c = '\t' || c = '\n' || c = '\r'

/-- May the character begin a tag or attribute name? -/
def startsName (c : Char) : Bool :=
  let n := c.toNat
  c.isAlpha || c = '_' || c = ':' || (0xc0 ≤ n && n ≤ 0xd6) || (0xd8 ≤ n && n ≤ 0xf6) ||
    (0xf8 ≤ n && n ≤ 0x2ff) || (0x370 ≤ n && n ≤ 0x37d) || (0x37f ≤ n && n ≤ 0x1fff) ||
    n = 0x200c || n = 0x200d || (0x2070 ≤ n && n ≤ 0x218f) || (0x2c00 ≤ n && n ≤ 0x2fef) ||
    (0x3001 ≤ n && n ≤ 0xd7ff) || (0xf900 ≤ n && n ≤ 0xfdcf) || (0xfdf0 ≤ n && n ≤ 0xfffd) ||
    (0x10000 ≤ n && n ≤ 0xeffff)

def continuesName (c : Char) : Bool :=
  let n := c.toNat
  startsName c || c.isDigit || c = '-' || c = '.' || n = 0xb7 || (0x300 ≤ n && n ≤ 0x36f) ||
    n = 0x203f || n = 0x2040

def name? : List Char → Option (String × List Char)
  | [] => none
  | c :: cs =>
    if startsName c then
      some (String.ofList (c :: cs.takeWhile continuesName), cs.dropWhile continuesName)
    else none

/-- The characters up to a terminator, and what follows it. -/
def until? (stop : List Char) : List Char → Option (List Char × List Char)
  | [] => if stop.isEmpty then some ([], []) else none
  | c :: cs =>
    if stop.isPrefixOf (c :: cs) then some ([], (c :: cs).drop stop.length)
    else (until? stop cs).map fun r => (c :: r.1, r.2)

/-- The character that a run of digits refers to. -/
def ofReference? (base : Nat) (digits : Option (List Nat)) : Option Char := do
  let ds ← digits
  let n := Text.ofDigits base ds
  if !ds.isEmpty && n.isValidChar && isAllowed (Char.ofNat n) then return Char.ofNat n else none

/-- The character that the text between `&` and `;` refers to. -/
def reference? (cs : List Char) : Option Char :=
  match cs with
  | '#' :: 'x' :: ds => ofReference? 16 (ds.mapM Text.hexValue?)
  | '#' :: ds => ofReference? 10 (ds.mapM fun c => if c.isDigit then Text.hexValue? c else none)
  | _ =>
    match String.ofList cs with
    | "amp" => some '&'
    | "lt" => some '<'
    | "gt" => some '>'
    | "quot" => some '"'
    | "apos" => some '\''
    | _ => none

/-- Resolves the references in a text; other characters go through `raw`. -/
def resolve? (raw : Char → Option Char) : Nat → List Char → Option (List Char)
  | _, [] => some []
  | 0, _ => none
  | fuel + 1, '&' :: cs => do
    let (body, rest) ← until? [';'] cs
    let c ← reference? body
    return c :: (← resolve? raw fuel rest)
  | fuel + 1, c :: cs => do
    let d ← raw c
    return d :: (← resolve? raw fuel cs)

/-- A raw character of an attribute value. -/
def attributeChar? (c : Char) : Option Char :=
  if c = '<' || !isAllowed c then none else if isSpace c then some ' ' else some c

/-- A raw character of text content. -/
def contentChar? (c : Char) : Option Char := if isAllowed c then some c else none

/-- One attribute: a name, an equals sign and a value in either quote. -/
def attribute? (cs : List Char) : Option ((String × String) × List Char) := do
  let (name, cs) ← name? cs
  match cs.dropWhile isSpace with
  | '=' :: cs =>
    match cs.dropWhile isSpace with
    | quote :: cs =>
      if quote = '"' || quote = '\'' then
        let (body, rest) ← until? [quote] cs
        let value ← resolve? attributeChar? body.length (uniformLines body)
        return ((name, String.ofList value), rest)
      else none
    | [] => none
  | _ => none

/-- The attributes of a start tag, each with a blank in front and no name twice, up to the end of
the tag. -/
def attributes? : Nat → List (String × String) → List Char →
    Option (List (String × String) × List Char)
  | 0, _, _ => none
  | fuel + 1, found, cs =>
    match cs.dropWhile isSpace with
    | '>' :: rest => some (found, '>' :: rest)
    | '/' :: '>' :: rest => some (found, '/' :: '>' :: rest)
    | rest => do
      if (cs.head?.map isSpace).getD false then
        let (a, rest) ← attribute? rest
        if found.any (·.1 = a.1) then none else attributes? fuel (found ++ [a]) rest
      else none

/-- Does a comment keep clear of double hyphens? -/
def isComment (cs : List Char) : Bool :=
  match cs with
  | [] => true
  | '-' :: rest => !(rest.isEmpty || rest.head? = some '-') && isComment rest
  | c :: rest => isAllowed c && isComment rest

/-- Character data: no raw end of a literal section in it. -/
def hasSectionEnd : List Char → Bool
  | ']' :: ']' :: '>' :: _ => true
  | [] => false
  | _ :: cs => hasSectionEnd cs

/-- The line on which `rest` begins in a document of `total` line ends. -/
def lineAt (total : Nat) (rest : List Char) : Nat := 1 + total - rest.count '\n'

/-- A processing instruction, after its opening. The name of the document's own declaration is
reserved. -/
def instruction? (cs : List Char) : Option (Token × List Char) := do
  let (target, cs) ← name? cs
  let (body, rest) ← until? ['?', '>'] cs
  if target.map Char.toLower = "xml" || target.contains ':' then none
  else if body.isEmpty then return (.instruction target "", rest)
  else if (body.head?.map isSpace).getD false && body.all isAllowed then
    return (.instruction target (String.ofList (uniformLines (body.dropWhile isSpace))), rest)
  else none

/-- A field of the document's declaration, with a blank in front. -/
def field? (name : String) (cs : List Char) : Option (String × List Char) := do
  if (cs.head?.map isSpace).getD false then
    let (a, rest) ← attribute? (cs.dropWhile isSpace)
    if a.1 = name then return (a.2, rest) else none
  else none

/-- A field that may be left out, if it is there and right. -/
def skipField? (name : String) (isRight : String → Bool) (cs : List Char) : Option (List Char) :=
  match field? name cs with
  | some (value, rest) => if isRight value then some rest else none
  | none => some cs

def isVersion (version : String) : Bool :=
  match version.toList with
  | '1' :: '.' :: ds => ds.all Char.isDigit
  | _ => false

/-- Encodings whose characters are those of the text. -/
def isEncoding (encoding : String) : Bool :=
  ["utf-8", "utf8", "us-ascii", "ascii"].contains (encoding.map Char.toLower)

/-- What comes after the document's own declaration, which may be missing. -/
def afterDeclaration? (cs : List Char) : Option (List Char) :=
  match cs with
  | '<' :: '?' :: 'x' :: 'm' :: 'l' :: c :: cs =>
    if isSpace c then do
      let (version, cs) ← field? "version" (c :: cs)
      let cs ← skipField? "encoding" isEncoding cs
      let cs ← skipField? "standalone" (["yes", "no"].contains ·) cs
      match cs.dropWhile isSpace with
      | '?' :: '>' :: rest => if isVersion version then some rest else none
      | _ => none
    else some ('<' :: '?' :: 'x' :: 'm' :: 'l' :: c :: cs)
  | _ => some cs

/-- A text in either quote, after some blanks. -/
def skipQuoted? (cs : List Char) : Option (List Char) :=
  match cs.dropWhile isSpace with
  | quote :: cs =>
    if quote = '"' || quote = '\'' then
      (until? [quote] cs).bind fun r => if r.1.all isAllowed then some r.2 else none
    else none
  | [] => none

/-- What comes after the address of a document type, which may be missing. -/
def skipAddress? (cs : List Char) : Option (List Char) :=
  match name? cs with
  | some ("SYSTEM", cs) => skipQuoted? cs
  | some ("PUBLIC", cs) => (skipQuoted? cs).bind skipQuoted?
  | some _ => none
  | none => some cs

/-- What comes after the declarations of a document type. -/
def skipDeclarations? : Nat → List Char → Option (List Char)
  | 0, _ => none
  | fuel + 1, cs =>
    match cs with
    | ']' :: rest => some rest
    | '<' :: '!' :: '-' :: '-' :: cs => do
      let (body, rest) ← until? ['-', '-', '>'] cs
      if isComment body then skipDeclarations? fuel rest else none
    | '<' :: '?' :: cs => do
      let (_, rest) ← instruction? cs
      skipDeclarations? fuel rest
    | '<' :: '!' :: cs => do
      let (kind, cs) ← name? cs
      let (body, rest) ← until? ['>'] cs
      if ["ELEMENT", "NOTATION"].contains kind && body.all isAllowed then
        skipDeclarations? fuel rest
      else none
    | c :: cs => if isSpace c then skipDeclarations? fuel cs else none
    | [] => none

/-- What comes after a document type, after its opening. -/
def afterDoctype? (cs : List Char) : Option (List Char) := do
  let (_, cs) ← name? (cs.dropWhile isSpace)
  let cs ← skipAddress? (cs.dropWhile isSpace)
  let cs ←
    match cs.dropWhile isSpace with
    | '[' :: cs => skipDeclarations? cs.length.succ cs
    | cs => some cs
  match cs.dropWhile isSpace with
  | '>' :: rest => return rest
  | _ => none

/-- A start tag, after its opening bracket. -/
def opening? (total : Nat) (cs : List Char) : Option (Token × List Char) := do
  let (tag, cs) ← name? cs
  let (attributes, cs) ← attributes? cs.length.succ [] cs
  let line := lineAt total cs
  match cs with
  | '/' :: '>' :: rest => return (.opening tag attributes line true, rest)
  | '>' :: rest => return (.opening tag attributes line false, rest)
  | _ => none

/-- An end tag, after its opening. -/
def closing? (cs : List Char) : Option (Token × List Char) := do
  let (tag, cs) ← name? cs
  match cs.dropWhile isSpace with
  | '>' :: rest => return (.closing tag, rest)
  | _ => none

/-- The next token of a document that is not at its end. -/
def next? (total : Nat) (cs : List Char) : Option (Token × List Char) :=
  match cs with
  | '<' :: '!' :: '-' :: '-' :: cs => do
    let (body, rest) ← until? ['-', '-', '>'] cs
    if isComment body then return (.comment (String.ofList (uniformLines body)), rest) else none
  | '<' :: '!' :: '[' :: 'C' :: 'D' :: 'A' :: 'T' :: 'A' :: '[' :: cs => do
    let (body, rest) ← until? [']', ']', '>'] cs
    if body.all isAllowed then return (.literal (String.ofList (uniformLines body)), rest) else none
  | '<' :: '!' :: 'D' :: 'O' :: 'C' :: 'T' :: 'Y' :: 'P' :: 'E' :: cs =>
    (afterDoctype? cs).map (.doctype, ·)
  | '<' :: '?' :: cs => instruction? cs
  | '<' :: '/' :: cs => closing? cs
  | '<' :: cs => opening? total cs
  | _ => do
    let body := cs.takeWhile (· ≠ '<')
    if hasSectionEnd body then none
    else
      let content ← resolve? contentChar? body.length (uniformLines body)
      return (.text (String.ofList content), cs.dropWhile (· ≠ '<'))

/-- All tokens, at most `fuel` of them. -/
def readAll? (total : Nat) : Nat → List Char → Option (List Token)
  | _, [] => some []
  | 0, _ => none
  | fuel + 1, cs => do
    let (token, rest) ← next? total cs
    return token :: (← readAll? total fuel rest)

/-- The tokens of a document. Every token takes at least one character. -/
def ofChars? (cs : List Char) : Option (List Token) :=
  (afterDeclaration? cs).bind (readAll? (cs.count '\n') cs.length)

end Token

end Markup

end Stagecraft
