import Stagecraft.Number.Decimal
import Stagecraft.Router.Datum
import Stagecraft.Text.Letter

/-!
# Tokens of router expressions

A source text is cut into names, words of the language, numbers, quoted texts and marks. Inside
brackets the ends of lines count for nothing; outside of them the first one ends the expression, and
only blank lines and comments may follow.
-/

namespace Stagecraft

namespace Router

/-- A quoted text as it is written: how it is to be read, and what stands between the quotes. -/
structure Quotation where
  raw : Bool
  bytes : Bool
  formatted : Bool
  body : List Char

inductive Token where
  | name (s : String)
  | word (s : String)
  | number (d : Datum)
  | quotation (q : Quotation)
  | mark (s : String)

namespace Token

/-- The words that are no names. -/
def words : List String :=
  ["False", "None", "True", "and", "as", "assert", "async", "await", "break", "class", "continue",
   "def", "del", "elif", "else", "except", "finally", "for", "from", "global", "if", "import",
   "in", "is", "lambda", "nonlocal", "not", "or", "pass", "raise", "return", "try", "while",
   "with", "yield"]

/-- The marks, longer ones before those they begin with. -/
def marks : List String :=
  ["**=", "//=", ">>=", "<<=", "...", "!=", "%=", "&=", "**", "*=", "+=", "-=", "->", "//", "/=",
   ":=", "<<", "<=", "<>", "==", ">=", ">>", "@=", "^=", "|=", "(", ")", "[", "]", "\x7b", "\x7d",
   ":", ",", ";", "+", "-", "*", "/", "|", "&", "<", ">", "=", ".", "%", "~", "^", "@"]

/-- May the character stand in a name? Those beyond ASCII are looked at once the name is cut out. -/
def isNamePart (c : Char) : Bool := c.isAlphanum || c = '_' || 128 ≤ c.toNat

def isName : List Char → Bool
  | [] => false
  | c :: cs => Text.startsName c && cs.all Text.continuesName

/-- The digits in front, with single underscores before digits, and the rest. -/
def digitRun? (isDigit : Char → Bool) : List Char → Option (List Char × List Char)
  | [] => some ([], [])
  | '_' :: cs =>
    match cs with
    | [] => none
    | c :: _ => if isDigit c then digitRun? isDigit cs else none
  | c :: cs =>
    if isDigit c then (digitRun? isDigit cs).map fun (ds, rest) => (c :: ds, rest)
    else some ([], c :: cs)

/-- Words that may follow a number at once, by their first letters. -/
def numberEnds : List (List Char) :=
  [['a', 'n', 'd'], ['e', 'l', 's', 'e'], ['f', 'o', 'r'], ['i', 'f'], ['i', 'n'], ['i', 's'],
   ['o', 'r'], ['n', 'o', 't']]

/-- May a number end in front of these characters? -/
def endsNumber (cs : List Char) : Bool :=
  numberEnds.any (·.isPrefixOf cs) || !((cs.head?.map isNamePart).getD false)

/-- The value of a digit up to fifteen. -/
def digitOf (c : Char) : Nat :=
  if c.isDigit then c.toNat - 48 else if 97 ≤ c.toNat then c.toNat - 87 else c.toNat - 55

def isHexDigit (c : Char) : Bool :=
  c.isDigit || ('a' ≤ c && c ≤ 'f') || ('A' ≤ c && c ≤ 'F')

/-- An integer in another base, after the letter that says which. -/
def inBase? (base : Nat) (isDigit : Char → Bool) (cs : List Char) :
    Option (Datum × List Char) := do
  let (ds, rest) ← digitRun? isDigit cs
  if ds.isEmpty || !endsNumber rest then none
  else return (.integer (Text.ofDigits base (ds.map digitOf)), rest)

/-- The exponent of a number, if there is one: its letter, sign and digits. A letter that begins a
word is left where it is. -/
def exponent? (cs : List Char) : Option (List Char × List Char) :=
  match cs with
  | c :: more =>
    if c = 'e' || c = 'E' then
      let (signed, ds) :=
        match more with
        | '+' :: ds => (some '+', ds)
        | '-' :: ds => (some '-', ds)
        | ds => (none, ds)
      if (ds.head?.map Char.isDigit).getD false then
        (digitRun? Char.isDigit ds).map fun (ds, rest) => ('e' :: (signed.toList ++ ds), rest)
      else if signed.isNone && endsNumber cs then some ([], cs)
      else none
    else some ([], cs)
  | [] => some ([], [])

/-- The real number that numeral characters write. -/
def realOf (cs : List Char) : Float := ((Numeral.unsigned? false cs).map Decimal.toFloat).getD 0

/-- The fraction of a number, if there is one: its point and digits. -/
def fraction? (cs : List Char) : Option (List Char × List Char) :=
  match cs with
  | '.' :: more =>
    if (more.head?.map Char.isDigit).getD false then
      (digitRun? Char.isDigit more).map fun (ds, rest) => ('.' :: ds, rest)
    else some (['.'], more)
  | _ => some ([], cs)

/-- A decimal number, which may have no digits before the point. -/
def decimal? (cs : List Char) : Option (Datum × List Char) := do
  let (whole, rest) ← digitRun? Char.isDigit cs
  let (fraction, rest) ← fraction? rest
  let (exponent, rest) ← exponent? rest
  match rest with
  | c :: more =>
    if c = 'j' || c = 'J' then
      if endsNumber more then return (.complex 0 (realOf (whole ++ fraction ++ exponent)), more)
      else none
  | [] => pure ()
  if !endsNumber rest then none
  else if !(fraction.isEmpty && exponent.isEmpty) then
    return (.real (realOf (whole ++ fraction ++ exponent)), rest)
  else if whole.length > Numeral.digitLimit then none
  else if whole.head? = some '0' && !whole.all (· = '0') then none
  else return (.integer (Numeral.digitsValue whole), rest)

def number? (cs : List Char) : Option (Datum × List Char) :=
  match cs with
  | '0' :: c :: rest =>
    if c = 'x' || c = 'X' then inBase? 16 isHexDigit rest
    else if c = 'o' || c = 'O' then inBase? 8 (fun d => '0' ≤ d && d ≤ '7') rest
    else if c = 'b' || c = 'B' then inBase? 2 (fun d => d = '0' || d = '1') rest
    else decimal? cs
  | _ => decimal? cs

/-- What stands before the closing quotes, and the rest. A backslash takes the next character with
it; a text in single quotes ends on its line. -/
def untilQuote? (quote : Char) (triple : Bool) : List Char → Option (List Char × List Char)
  | [] => none
  | '\\' :: cs =>
    match cs with
    | [] => none
    | c :: cs => (untilQuote? quote triple cs).map fun (body, rest) => ('\\' :: c :: body, rest)
  | c :: cs =>
    if c = quote && !triple then some ([], cs)
    else if c = quote && [quote, quote].isPrefixOf cs then some ([], cs.drop 2)
    else if c = '\n' && !triple then none
    else (untilQuote? quote triple cs).map fun (body, rest) => (c :: body, rest)

def quoted? : List Char → Option (List Char × List Char)
  | [] => none
  | q :: cs =>
    if [q, q].isPrefixOf cs then untilQuote? q true (cs.drop 2) else untilQuote? q false cs

def isQuote (c : Char) : Bool := c = '"' || c = '\''

/-- How a quoted text is read, by the letters in front of it. -/
def quotationStyle? (letters : List Char) : Option (List Char → Quotation) :=
  match String.ofList (letters.map Char.toLower) with
  | "" => some fun body => ⟨false, false, false, body⟩
  | "u" => some fun body => ⟨false, false, false, body⟩
  | "r" => some fun body => ⟨true, false, false, body⟩
  | "b" => some fun body => ⟨false, true, false, body⟩
  | "br" => some fun body => ⟨true, true, false, body⟩
  | "rb" => some fun body => ⟨true, true, false, body⟩
  | "f" => some fun body => ⟨false, false, true, body⟩
  | "fr" => some fun body => ⟨true, false, true, body⟩
  | "rf" => some fun body => ⟨true, false, true, body⟩
  | _ => none

/-- A name, a word, or a quoted text with letters in front. -/
def nameOrQuotation? (cs : List Char) : Option (Token × List Char) := do
  let letters := cs.takeWhile isNamePart
  let rest := cs.dropWhile isNamePart
  if (rest.head?.map isQuote).getD false then
    if let some style := quotationStyle? letters then
      let (body, rest) ← quoted? rest
      return (.quotation (style body), rest)
  if !isName letters then none
  else
    let s := String.ofList letters
    return (if words.contains s then .word s else .name s, rest)

/-- The token that begins with these characters. -/
def next? (cs : List Char) : Option (Token × List Char) :=
  let digitFollows (cs : List Char) : Bool := (cs.head?.map Char.isDigit).getD false
  match cs with
  | [] => none
  | c :: rest =>
    if c.isDigit || (c = '.' && digitFollows rest) then
      (number? cs).map fun (d, rest) => (.number d, rest)
    else if isNamePart c || isQuote c then nameOrQuotation? cs
    else
      (marks.find? fun m => m.toList.isPrefixOf cs).map fun m => (.mark m, cs.drop m.length)

/-- Brackets may not be nested deeper than this. -/
def depthLimit : Nat := 200

/-- How many brackets are open after a token. -/
def depthAfter (depth : Nat) : Token → Nat
  | .mark m =>
    if ["(", "[", "\x7b"].contains m then depth + 1
    else if [")", "]", "\x7d"].contains m then depth - 1
    else depth
  | _ => depth

/-- Are there only blank lines and comments? -/
def isBlankTail : Nat → List Char → Bool
  | 0, _ => true
  | _, [] => true
  | n + 1, c :: cs =>
    if c = '#' then isBlankTail n (cs.dropWhile (· ≠ '\n'))
    else if c = '\\' then
      match cs with
      | '\n' :: d :: rest => isBlankTail n (d :: rest)
      | _ => false
    else (c = ' ' || c = '\t' || c = '\x0c' || c = '\n') && isBlankTail n cs

/-- The tokens of a line and of the lines that brackets and backslashes join to it. There are no
more of them than characters. -/
def readAll? : Nat → Nat → List Char → Option (List Token)
  | 0, _, _ => some []
  | _, _, [] => some []
  | n + 1, depth, c :: cs =>
    if c = ' ' || c = '\t' || c = '\x0c' then readAll? n depth cs
    else if c = '#' then readAll? n depth (cs.dropWhile (· ≠ '\n'))
    else if c = '\n' then
      if depth = 0 then (if isBlankTail n cs then some [] else none) else readAll? n depth cs
    else if c = '\\' then
      match cs with
      | '\n' :: d :: rest => readAll? n depth (d :: rest)
      | _ => none
    else do
      let (token, rest) ← next? (c :: cs)
      let depth := depthAfter depth token
      if depthLimit < depth then none else return token :: (← readAll? n depth rest)

/-- The first line that is not blank, which must not be indented. -/
def firstLine? : Nat → Nat → List Char → Option (List Char)
  | 0, _, _ => some []
  | _, _, [] => some []
  | n + 1, column, c :: cs =>
    if c = ' ' then firstLine? n (column + 1) cs
    else if c = '\t' then firstLine? n ((column / 8 + 1) * 8) cs
    else if c = '\x0c' then firstLine? n 0 cs
    else if c = '\n' then firstLine? n 0 cs
    else if c = '#' then firstLine? n column (cs.dropWhile (· ≠ '\n'))
    else if column ≠ 0 then none
    else if c = '\\' then
      match cs with
      | '\n' :: rest => firstLine? n 0 rest
      | _ => none
    else some (c :: cs)

def ofChars? (cs : List Char) : Option (List Token) := do
  if cs.contains (Char.ofNat 0) then none
  let cs ← firstLine? cs.length 0 cs
  readAll? cs.length 0 cs

end Token

end Router

end Stagecraft
