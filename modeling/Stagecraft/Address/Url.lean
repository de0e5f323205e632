import Stagecraft.Address.Host
import Stagecraft.Fault

/-!
# Addresses of documents

An address has a scheme, an authority, a path with parameters, a query and a fragment, any of which
may be missing. `Url.join` resolves a reference against the address it was found at: what the
reference leaves out is taken from there, and the segments of its path are followed from the last
directory.
-/

namespace Stagecraft

/-- An address, taken apart. -/
structure Url where
  scheme : List Char
  authority : List Char
  path : List Char
  params : List Char
  query : List Char
  fragment : List Char
  deriving Repr, DecidableEq

namespace Url

/-- Schemes whose references may be relative. -/
def relativeSchemes : List String :=
  ["", "ftp", "http", "gopher", "nntp", "imap", "wais", "file", "https", "shttp", "mms",
   "prospero", "rtsp", "rtsps", "rtspu", "sftp", "svn", "svn+ssh", "ws", "wss"]

/-- Schemes whose addresses have an authority. -/
def authoritySchemes : List String :=
  ["", "ftp", "http", "gopher", "nntp", "telnet", "imap", "wais", "file", "mms", "https", "shttp",
   "snews", "prospero", "rtsp", "rtsps", "rtspu", "rsync", "svn", "svn+ssh", "sftp", "nfs", "git",
   "git+ssh", "ws", "wss"]

/-- Schemes whose paths have parameters. -/
def paramSchemes : List String :=
  ["", "ftp", "hdl", "prospero", "http", "imap", "https", "shttp", "rtsp", "rtsps", "rtspu", "sip",
   "sips", "mms", "sftp", "tel"]

def isSchemeChar (c : Char) : Bool := c.isAlphanum || c = '+' || c = '-' || c = '.'

/-- The characters in front of the first `mark`, and those behind it, if there is one. -/
def cut (mark : Char) (cs : List Char) : List Char × Option (List Char) :=
  (cs.takeWhile (· ≠ mark), (cs.dropWhile (· ≠ mark)).tail?)

/-- The scheme in front of an address, in lower case, and the rest. -/
def scheme? (cs : List Char) : Option (List Char × List Char) :=
  match cut ':' cs with
  | (before, some rest) =>
    if (before.head?.map Char.isAlpha).getD false && before.all isSchemeChar then
      some (before.map Char.toLower, rest)
    else none
  | (_, none) => none

def hasScheme (cs : List Char) : Bool := (scheme? cs).isSome

/-- The path and its parameters, which follow the first semicolon of the last segment. -/
def splitParams (cs : List Char) : List Char × List Char :=
  let last := (cs.reverse.takeWhile (· ≠ '/')).reverse
  match cut ';' last with
  | (name, some params) => (cs.take (cs.length - last.length) ++ name, params)
  | (_, none) => (cs, [])

/-- Characters that are one of `/ ? # @ :` in disguise. -/
def disguised : List Nat :=
  [0x2047, 0x2048, 0x2049, 0x2100, 0x2101, 0x2105, 0x2106, 0x2a74, 0xfe13, 0xfe16, 0xfe55, 0xfe56,
   0xfe5f, 0xfe6b, 0xff03, 0xff0f, 0xff1a, 0xff1f, 0xff20]

/-- May this be an authority? A host in brackets must be one that needs them. -/
def isAuthority (cs : List Char) : Bool :=
  let host := ((cut ']' ((cut '[' cs).2.getD [])).1)
  (cs.contains '[' == cs.contains ']') && (!cs.contains '[' || Host.isBracketable host) &&
    !cs.any fun c => disguised.contains c.toNat

/-- The authority of an address without its scheme, and the rest. -/
def splitAuthority (cs : List Char) : List Char × List Char :=
  match cs with
  | '/' :: '/' :: rest =>
    let inside (c : Char) : Bool := c ≠ '/' && c ≠ '?' && c ≠ '#'
    (rest.takeWhile inside, rest.dropWhile inside)
  | _ => ([], cs)

/-- Takes an address apart. If it has no scheme, it is given one. Blanks and control characters in
front are dropped, and so are tabs and line ends everywhere. -/
def ofChars (scheme : List Char) (cs : List Char) : Except Fault Url :=
  let cs := (cs.dropWhile fun c => c.toNat ≤ 32).filter fun c => c ≠ '\t' && c ≠ '\x0d' && c ≠ '\n'
  let (scheme, rest) := (scheme? cs).getD (scheme, cs)
  let (authority, rest) := splitAuthority rest
  if !isAuthority authority then .error .badValue
  else
    let (rest, fragment) := cut '#' rest
    let (path, query) := cut '?' rest
    let (path, params) :=
      if paramSchemes.contains (String.ofList scheme) then splitParams path else (path, [])
    .ok ⟨scheme, authority, path, params, query.getD [], fragment.getD []⟩

/-- A part of an address with the mark in front of it, unless it is empty. -/
def marked (mark : Char) (cs : List Char) : List Char := if cs.isEmpty then [] else mark :: cs

def toChars (u : Url) : List Char :=
  let path := u.path ++ marked ';' u.params
  let path :=
    if !u.authority.isEmpty ||
        (!u.scheme.isEmpty && authoritySchemes.contains (String.ofList u.scheme)) ||
        ['/', '/'].isPrefixOf path then
      '/' :: '/' :: (u.authority ++ (if path.isEmpty || path.head? = some '/' then path
        else '/' :: path))
    else path
  (if u.scheme.isEmpty then path else u.scheme ++ ':' :: path) ++ marked '?' u.query ++
    marked '#' u.fragment

/-- Follows one segment of a path from a list of segments, the last first. -/
def enter (reversed : List (List Char)) (segment : List Char) : List (List Char) :=
  if segment = ['.', '.'] then reversed.tail
  else if segment = ['.'] then reversed
  else segment :: reversed

/-- The segments of a path with the relative ones followed. A relative one at the end leaves a
directory. -/
def follow (segments : List (List Char)) : List (List Char) :=
  let entered := (segments.foldl enter []).reverse
  match segments.getLast? with
  | some last => if last = ['.'] || last = ['.', '.'] then entered ++ [[]] else entered
  | none => entered

/-- The segments with the empty ones between the first and the last left out. -/
def dropEmptyInside (segments : List (List Char)) : List (List Char) :=
  match segments with
  | [] => []
  | [s] => [s]
  | s :: rest => s :: (rest.dropLast.filter fun t => !t.isEmpty) ++ rest.getLast?.toList

/-- The directory of a path, as segments. -/
def directory (path : List Char) : List (List Char) :=
  let segments := Text.splitChars '/' path
  match segments.getLast? with
  | some [] => segments
  | _ => segments.dropLast

/-- The path of a reference, followed from the path of its base. -/
def joinPaths (base path : List Char) : List Char :=
  let segments :=
    if path.head? = some '/' then Text.splitChars '/' path
    else dropEmptyInside (directory base ++ Text.splitChars '/' path)
  let joined := (['/'].intercalate (follow segments))
  if joined.isEmpty then ['/'] else joined

/-- A reference that was found at a base address. -/
def join (base reference : String) : Except Fault String :=
  if base.isEmpty then .ok reference
  else if reference.isEmpty then .ok base
  else do
    let b ← ofChars [] base.toList
    let r ← ofChars b.scheme reference.toList
    let scheme := String.ofList r.scheme
    if r.scheme ≠ b.scheme || !relativeSchemes.contains scheme then return reference
    else if authoritySchemes.contains scheme && !r.authority.isEmpty then
      return String.ofList r.toChars
    else
      let authority := if authoritySchemes.contains scheme then b.authority else r.authority
      if r.path.isEmpty && r.params.isEmpty then
        let query := if r.query.isEmpty then b.query else r.query
        return String.ofList
          (toChars { r with authority, path := b.path, params := b.params, query })
      else return String.ofList (toChars { r with authority, path := joinPaths b.path r.path })

theorem join_of_empty_base (reference : String) : join "" reference = .ok reference := by
  simp [join]

end Url

end Stagecraft
