import Stagecraft.CommandLine.Arguments
import Stagecraft.CommandLine.Summary
import Stagecraft.Settings.Load

/-!
# Running commands

A command answers with a text or fails. A failure that is the fault of a document is told in one
message; any other one ends the program as it is.
-/

namespace Stagecraft

def versionText : String := "0.1.0"

/-- How the program ends: its exit code, what it has printed, what it has told on the way, and the
fault that ended it unless that was told. -/
structure Outcome where
  exit : Nat := 0
  output : String := ""
  errors : String := ""
  uncaught : Option Fault := none
  notices : List Notice := []

namespace Command

/-- A loader with the settings and an address for documents without one. -/
def loader (e : Environment) (s : Storage) (baseUrl : Option String) : Except Fault Loader := do
  let settings ← Settings.load e s []
  return { settings := { settings with baseUrl := baseUrl.or settings.baseUrl }, storage := s }

/-- Is a fault told in a message? Listing a pool also tells of elements that it cannot start
from. -/
def tells (c : Command) (f : Fault) : Bool :=
  match c, f with
  | objects _, .wrongElement _ _ => true
  | objects _, .notAnElement _ => true
  | objects _, .typeMismatch => true
  | _, _ => f.isReported

theorem tells_of_isReported {c : Command} {f : Fault} (h : f.isReported = true) :
    c.tells f = true := by
  unfold tells
  split <;> first | rfl | exact h

variable [Application]

/-- The summary of the scene at a path. -/
def compiled (e : Environment) (s : Storage) (path : FilePath) (baseUrl : Option String) :
    Timed (List String) := do
  let d ← SceneDraft.load (← loader e s baseUrl) path.text
  return d.summary

/-- The summary of the pool at a path. -/
def listed (e : Environment) (s : Storage) (path : FilePath) : Timed (List String) := do
  let l ← loader e s none
  let root ← l.loadDocument path.text
  Pool.check root
  return Pool.summary (← Pool.ofElement l root)

/-- The lines that a command answers with. -/
def answer (e : Environment) (s : Storage) : Command → Timed (List String)
  | nothing => return []
  | version => return ["xmlforge " ++ versionText]
  | compile path baseUrl => compiled e s path baseUrl
  | objects path => listed e s path

def run (e : Environment) (s : Storage) (c : Command) : Outcome :=
  let (result, notices) := (c.answer e s).run
  match result with
  | .ok lines => { output := unlines lines, notices }
  | .error f =>
    if c.tells f then { exit := 1, errors := "Error: " ++ f.report ++ "\n", notices }
    else { exit := 1, uncaught := some f, notices }

end Command

namespace Outcome

def usage : String :=
  unlines ["Usage: xmlforge [--version] [--verbose] compile PATH [--base-url URL]",
    "       xmlforge [--version] [--verbose] objects PATH"]

/-- How the program ends when its arguments make no sense. -/
def misuse : Outcome := { exit := 2, errors := usage }

def ofArguments [Application] (e : Environment) (s : Storage) (arguments : List String) : Outcome :=
  match Invocation.ofArguments? arguments with
  | some i => i.command.run e s
  | none => misuse

end Outcome

end Stagecraft
