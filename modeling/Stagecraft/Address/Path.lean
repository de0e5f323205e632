import Stagecraft.Text.Blank

/-!
# File paths

A path is a root, if it has one, and names. Names that are empty or a single dot say nothing and are
left out; two dots stay, since what they lead to depends on the files there are.
-/

namespace Stagecraft

/-- A path of names, from a root or from where one stands. -/
structure FilePath where
  root : String
  names : List String
  deriving DecidableEq, Repr

namespace FilePath

/-- The root in front of a path. Two slashes are a root of their own, more are the same as one. -/
def rootOf (cs : List Char) : String :=
  match cs with
  | '/' :: '/' :: '/' :: _ => "/"
  | '/' :: '/' :: _ => "//"
  | '/' :: _ => "/"
  | _ => ""

def ofString (s : String) : FilePath :=
  { root := rootOf s.toList
    names := (Text.splitOn '/' s).filter fun n => n ≠ "" && n ≠ "." }

def text (p : FilePath) : String :=
  let joined := p.root ++ String.intercalate "/" p.names
  if joined.isEmpty then "." else joined

def isAbsolute (p : FilePath) : Bool := p.root ≠ ""

def below (p : FilePath) (name : String) : FilePath := { p with names := p.names ++ [name] }

end FilePath

end Stagecraft
