import Stagecraft.Address.Path
import Stagecraft.Address.Request
import Stagecraft.Geometry.Vector
import Stagecraft.Loading.Deflate

/-!
# Where content is loaded from

Files by path, with the folders around them, and what sites answer to requests. `Storage.read` finds
the content of a file and `Storage.answer` that of a site's address, or they say why there is none.
-/

namespace Stagecraft

/-- What a file holds: the bytes of a text, those of a blank picture of some size, or any others. -/
inductive Content where
  | text (s : String)
  | picture (width height : Nat)
  | bytes (data : List UInt8)
  deriving Repr, DecidableEq

namespace Content

/-- The size of the file of a blank picture. Its rows hold one bit for each pixel, after a byte of
their own. -/
def pictureFileSize (width height : Nat) : Nat :=
  57 + Deflate.compressedSize (height * (1 + (width + 7) / 8))

/-- How many bytes there are. Pictures are blank. -/
def size : Content → Nat
  | text s => s.utf8ByteSize
  | picture w h => pictureFileSize w h
  | bytes data => data.length

/-- The text that the bytes are, if they are one. -/
def text? : Content → Option String
  | text s => some s
  | picture _ _ => none
  | bytes data => String.fromUTF8? ⟨data.toArray⟩

def pictureSize? : Content → Option Vec2
  | picture w h => some ⟨w.toFloat, h.toFloat⟩
  | _ => none

end Content

/-- How something that is asked of the outside goes wrong: for a reason that is expected, or in a
way that only the outside knows. -/
inductive Refusal where
  | expected (reason : LoadFailure)
  | foreign (kind : String)
  deriving Repr

namespace Refusal

/-- Reasons that are expected are reported with the address. -/
def fault (url : String) : Refusal → Fault
  | expected reason => .load url reason
  | foreign kind => .foreign kind

end Refusal

/-- Sound data and the address it came from. -/
structure Clip where
  url : String
  size : Nat
  deriving Repr, DecidableEq

inductive Reply where
  | content (c : Content)
  | status (code : Nat)
  | redirect (target : String)
  | failure (text : String)
  deriving Repr, DecidableEq

/-- Files and folders below where one stands, sites, and files anywhere that are known by a path of
their own. Folders around files exist without being listed. -/
structure Storage where
  files : List (List String × Content) := []
  folders : List (List String) := []
  sites : List (String × Reply) := []
  elsewhere : List (String × Content) := []

/-- Where a path has led: to a folder, out of the known ones, or to a file. -/
inductive Place where
  | folder (names : List String)
  | outside
  | file (c : Content)

namespace Storage

/-- Is there a folder with these names? -/
def isFolder (s : Storage) (names : List String) : Bool :=
  names.isEmpty || s.folders.any (fun f => names.isPrefixOf f) ||
    s.files.any fun f => names.isPrefixOf f.1 && names ≠ f.1

/-- One step along a path. -/
def enter (s : Storage) (place : Place) (name : String) : Except LoadFailure Place :=
  match place with
  | .file _ => .error .notDirectory
  | .outside => if name = ".." then .ok .outside else .error .notFound
  | .folder names =>
    if name = ".." then .ok (if names.isEmpty then .outside else .folder names.dropLast)
    else
      let names := names ++ [name]
      match s.files.lookup names with
      | some c => .ok (.file c)
      | none => if s.isFolder names then .ok (.folder names) else .error .notFound

/-- The content of the file that a path leads to. -/
def walk (s : Storage) (p : FilePath) : Except LoadFailure Content := do
  match ← p.names.foldlM s.enter (if p.isAbsolute then .outside else .folder []) with
  | .file c => return c
  | _ => throw .isDirectory

def read (s : Storage) (p : FilePath) : Except LoadFailure Content :=
  match s.elsewhere.lookup p.text with
  | some c => .ok c
  | none => s.walk p

def redirectLimit : Nat := 20

/-- The content that a site gives for an address. -/
def request (s : Storage) (follow : Bool) : Nat → String → Except LoadFailure Content
  | hops, url =>
    let url := Request.text url
    match s.sites.lookup url with
    | none => .error (.status 404 url)
    | some (.content c) => .ok c
    | some (.status code) => if code / 100 = 2 then .ok (.text "") else .error (.status code url)
    | some (.failure text) => .error (.connection text)
    | some (.redirect target) =>
      if !follow then .error (.redirected url target)
      else
        match hops with
        | 0 => .error .tooManyRedirects
        | hops + 1 =>
          match Url.join url target with
          | .ok next => s.request follow hops next
          | .error _ => .error (.status 404 url)

/-- What a site answers to a request. An address with a port that cannot be one is not even asked
for. -/
def answer (s : Storage) (follow : Bool) (url : String) : Except Refusal Content :=
  if Request.hasUsablePort url then (s.request follow redirectLimit url).mapError .expected
  else .error (.foreign "InvalidURL")

/-- What an address names: a site's address or a file. -/
inductive Source where
  | site (url : String)
  | file (path : String)

/-- What an address names. A file is named by its path or by an address with the scheme `file`. -/
def sourceOf (url : String) : Except Fault Source := do
  let u ← Url.ofChars [] url.toList
  let scheme := String.ofList u.scheme
  if scheme = "http" || scheme = "https" then return .site url
  else if scheme = "file" then return .file (Request.decode u.path)
  else return .file url

end Storage

end Stagecraft
