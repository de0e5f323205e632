import Stagecraft.Animation.Atlas
import Stagecraft.Loading.Storage
import Stagecraft.Markup.Reader
import Stagecraft.Markup.Selector
import Stagecraft.Registrations
import Stagecraft.Schedule.Timed
import Stagecraft.Settings.Basic

/-!
# Loaders

A loader holds everything that definitions look up: settings, storage and what the host registers.
References in a document are resolved against its own address, or the one that the settings give.

What is not ours is left open: what sites answer (`answer`), how the bytes of a document are read
(`read`), how those of a picture are decoded (`decode`), and how long each load takes, wherever it
is begun (`delay`). Other work may use the same loader; the loads that it waits for are `underway`.
-/

namespace Stagecraft

open Markup

/-- The document that content at an address is, if it is one. It knows the address. -/
def Content.asDocument (url : String) (c : Content) : Except Refusal Document :=
  match c.text?.bind parse? with
  | some root => .ok ⟨root, some url⟩
  | none => .error (.expected .notWellFormed)

/-- The size of the picture that content is, if it is one. -/
def Content.asPicture (c : Content) : Except Refusal Vec2 :=
  match c.pictureSize? with
  | some size => .ok size
  | none => .error (.expected .notAnImage)

/-- Settings, storage and registrations, and what is asked of the outside. -/
structure Loader where
  settings : Settings := {}
  storage : Storage := {}
  host : Registrations := {}
  answer : HttpSettings → String → Except Refusal Content := fun http =>
    storage.answer http.followRedirects
  read : String → Content → Except Refusal Document := Content.asDocument
  decode : Content → Except Refusal Vec2 := Content.asPicture
  delay : String → Start → Nat := fun _ _ => 0
  underway : List Load := []

namespace Loader

/-- The address that an attribute refers to, if it is there. -/
def resolve (l : Loader) (c : Cursor) (name : String) : Except Fault (Option String) :=
  match (c.get? name).filter (· ≠ "") with
  | none => .ok none
  | some reference =>
    match (c.url.filter (· ≠ "")).or l.settings.baseUrl with
    | none => .ok (some reference)
    | some base =>
      if Url.hasScheme reference.toList then .ok (some reference)
      else (Url.join base reference).map some

/-- The content of a source. No file's name holds the character NUL. -/
def content (l : Loader) (url : String) : Storage.Source → Except Fault Content
  | .site address => (l.answer l.settings.http address).mapError (·.fault url)
  | .file path =>
    if path.toList.contains (Char.ofNat 0) then .error .badValue
    else (l.storage.read (FilePath.ofString path)).mapError (.load url ·)

def fetch (l : Loader) (url : String) : Timed Content := do
  let source ← Storage.sourceOf url
  Timed.load (l.delay url) (l.content url source)

/-- The document that content at an address is. -/
def documentOf (l : Loader) (url : String) (content : Content) : Except Fault Document :=
  (l.read url content).mapError (·.fault url)

def loadDocument (l : Loader) (url : String) : Timed Cursor := do
  return Cursor.ofDocument (← l.documentOf url (← l.fetch url))

/-- The size of the picture that content at an address is. -/
def pictureSizeOf (l : Loader) (url : String) (content : Content) : Except Fault Vec2 :=
  (l.decode content).mapError (·.fault url)

/-- The size of the picture at an address. Decoding it is waited for as well. -/
def loadPicture (l : Loader) (url : String) : Timed Vec2 := Timed.tracked do
  let content ← l.fetch url
  Timed.load (fun _ => 0) (l.pictureSizeOf url content)

def loadClip (l : Loader) (url : String) : Timed Clip := Timed.tracked do
  return ⟨url, (← l.fetch url).size⟩

/-- The document that an element refers to, or the element itself if it refers to none. -/
def follow (l : Loader) (c : Cursor) : Timed Cursor := do
  match ← l.resolve c "src" with
  | some url => l.loadDocument url
  | none => return c

/-- The sound that an element refers to. -/
def clipOf (l : Loader) (c : Cursor) : Timed Clip := do
  match ← l.resolve c "src" with
  | some url => l.loadClip url
  | none => (throw (.defect .audioSource c.element) : Except Fault Clip)

/-- The size of the picture that an element refers to. -/
def pictureOf (l : Loader) (c : Cursor) : Timed Vec2 := do
  match ← l.resolve c "url" with
  | some url => l.loadPicture url
  | none => (throw (.defect .textureUrl c.element) : Except Fault Vec2)

theorem resolve_of_absent {l : Loader} {c : Cursor} {name : String} (h : c.get? name = none) :
    l.resolve c name = .ok none := by
  simp [resolve, h]

end Loader

end Stagecraft
