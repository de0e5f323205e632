import Stagecraft.Text.Printable

/-!
# Quoted text

The quoted form of a text in messages: the text between quotes, with everything that would not
show as itself escaped. Single quotes are used unless the text holds one and no double quote.
-/

namespace Stagecraft

namespace Text

/-- The digit of a value below sixteen, in lower case. -/
def hexDigit (n : Nat) : Char := Char.ofNat (if n < 10 then 48 + n else 87 + n)

/-- The last `width` hexadecimal digits of a number. -/
def hex : Nat → Nat → List Char
  | 0, _ => []
  | width + 1, n => hex width (n / 16) ++ [hexDigit (n % 16)]

/-- How one code point is written between quotes. -/
def escapeCode (quote : Char) (code : Nat) : List Char :=
  if code = quote.toNat || code = 92 then ['\\', Char.ofNat code]
  else if code = 9 then ['\\', 't']
  else if code = 10 then ['\\', 'n']
  else if code = 13 then ['\\', 'r']
  else if isPrintable code then [Char.ofNat code]
  else if code < 0x100 then '\\' :: 'x' :: hex 2 code
  else if code < 0x10000 then '\\' :: 'u' :: hex 4 code
  else '\\' :: 'U' :: hex 8 code

/-- The quote that a text is written with. -/
def quoteFor (cs : List Char) : Char :=
  if cs.contains '\'' && !cs.contains '"' then '"' else '\''

def quoted (s : String) : String :=
  let quote := quoteFor s.toList
  String.ofList (quote :: s.toList.flatMap (fun c => escapeCode quote c.toNat) ++ [quote])

end Text

end Stagecraft
