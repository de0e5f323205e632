import Stagecraft.Address.Url
import Stagecraft.Text.Digit

/-!
# Addresses as they are requested

An address is brought into one form before it is requested: scheme and host in lower case, without
the usual port, relative segments followed, and characters that may not stand in it encoded. The
encoding is undone where a path names a file.
-/

namespace Stagecraft

namespace Request

/-- The byte that a percent sign and two digits stand for. -/
def encodedByte? : List Char → Option Nat
  | '%' :: a :: b :: _ => do return (← Text.hexValue? a) * 16 + (← Text.hexValue? b)
  | _ => none

def upperHex (n : Nat) : Char := Char.ofNat (if n < 10 then 48 + n else 55 + n)

def encodeChar (c : Char) : List Char :=
  (String.singleton c).toUTF8.toList.flatMap fun b =>
    ['%', upperHex (b.toNat / 16), upperHex (b.toNat % 16)]

/-- Encodes what may not stand in a part of an address. What is encoded stays. -/
def encode (refused : List Char) : List Char → List Char
  | [] => []
  | c :: cs =>
    let isFine := 32 < c.toNat && c.toNat < 127 && !refused.contains c
    if c = '%' && (encodedByte? (c :: cs)).isNone then encodeChar c ++ encode refused cs
    else if isFine then c :: encode refused cs
    else encodeChar c ++ encode refused cs

def refusedInPath : List Char := ['"', '#', '<', '>', '?', '`', '{', '}']

def refusedInQuery : List Char := ['"', '#', '<', '>']

def followSegments (cs : List Char) : List Char :=
  let segments := Text.splitChars '/' cs
  if segments.contains ['.'] || segments.contains ['.', '.'] then
    let step (reversed : List (List Char)) (s : List Char) : List (List Char) :=
      if s = ['.'] then reversed
      else if s = ['.', '.'] then (if reversed = [[]] then reversed else reversed.tail)
      else s :: reversed
    ['/'].intercalate (segments.foldl step []).reverse
  else cs

/-- An authority in lower case, without the port that its scheme has anyway. -/
def authority (scheme cs : List Char) : List Char :=
  let user := (cs.reverse.dropWhile (· ≠ '@')).reverse
  let host := (cs.drop user.length).map Char.toLower
  let port := if scheme = "http".toList then ":80".toList else ":443".toList
  let host :=
    if port.reverse.isPrefixOf host.reverse then host.take (host.length - port.length) else host
  user ++ host

/-- The port that an authority ends with: what follows the last colon, outside of brackets. -/
def port? (cs : List Char) : Option (List Char) :=
  let host := (cs.reverse.takeWhile fun c => c ≠ '@' && c ≠ ']').reverse
  if host.contains ':' then some (host.reverse.takeWhile (· ≠ ':')).reverse else none

/-- Is the port of an address a number that a port can have, if there is one? -/
def hasUsablePort (s : String) : Bool :=
  let rest := ((Url.scheme? s.toList).map (·.2)).getD s.toList
  match port? (Url.splitAuthority rest).1 with
  | none => true
  | some ds =>
      ds.all Char.isDigit && ds.length ≤ 5 && Text.ofDigits 10 (ds.map (·.toNat - 48)) < 65536

/-- The form in which an address is requested. -/
def text (s : String) : String :=
  let (scheme, rest) := (Url.scheme? s.toList).getD ([], s.toList)
  let (place, rest) := Url.splitAuthority rest
  let (rest, fragment) := Url.cut '#' rest
  let (path, query) := Url.cut '?' rest
  let part (mark : Char) (cs : Option (List Char)) : List Char :=
    match cs with
    | some cs => mark :: encode refusedInQuery cs
    | none => []
  String.ofList (scheme ++ [':', '/', '/'] ++ authority scheme place ++
    encode refusedInPath (followSegments path) ++ part '?' query ++ part '#' fragment)

/-- The bytes of a path, encoded ones decoded. -/
def decodeBytes : Nat → List Char → List UInt8
  | 0, _ => []
  | _, [] => []
  | n + 1, c :: cs =>
    match encodedByte? (c :: cs) with
    | some b => UInt8.ofNat b :: decodeBytes n (cs.drop 2)
    | none => (String.singleton c).toUTF8.toList ++ decodeBytes n cs

/-- A path as a file is named. Bytes that make no text are marked. -/
def decode (cs : List Char) : String :=
  let bytes := decodeBytes cs.length cs
  match String.fromUTF8? ⟨bytes.toArray⟩ with
  | some s => s
  | none => String.ofList (bytes.map fun b => if b < 128 then Char.ofNat b.toNat else '\ufffd')

end Request

end Stagecraft
