import Stagecraft.Loading.Storage

/-!
# What bytes are

Bytes of a file are a picture if they begin as pictures do, a text if they are one, or else of no
meaning.
-/

namespace Stagecraft

namespace Content

/-- How the bytes of a picture begin, up to its width. -/
def pictureStart : List UInt8 := [137, 80, 78, 71, 13, 10, 26, 10, 0, 0, 0, 13, 73, 72, 68, 82]

/-- The number that bytes write, most significant first. -/
def bytesValue (bs : List UInt8) : Nat := bs.foldl (fun n b => n * 256 + b.toNat) 0

/-- What the bytes of a file are. -/
def ofBytes (data : ByteArray) : Content :=
  let start := (data.extract 0 24).toList
  if pictureStart.isPrefixOf start then
    .picture (bytesValue ((start.drop 16).take 4)) (bytesValue ((start.drop 20).take 4))
  else
    match String.fromUTF8? data with
    | some s => .text s
    | none => .bytes data.toList

end Content

end Stagecraft
