import Stagecraft.CommandLine.Outcome
import Stagecraft.Loading.Signature
import Stagecraft.Stage.Report

/-!
# The program

Carries out a command on the files of the machine. A file is read when a command first misses it,
and the command is then begun again.
-/

namespace Stagecraft

/-- The content of a file of the machine. -/
def contentOnDisk? (path : String) : IO (Option Content) := do
  try
    let data ← IO.FS.readBinFile path
    return some (Content.ofBytes data)
  catch _ => return none

/-- The variables that the program was started with. -/
def startVariables : IO (Catalog String) := do
  try
    let data ← IO.FS.readBinFile "/proc/self/environ"
    let entries := Text.splitOn (Char.ofNat 0) ((String.fromUTF8? data).getD "")
    return entries.filterMap fun entry =>
      match Text.splitChars '=' entry.toList with
      | name :: value =>
        if value.isEmpty then none
        else some (String.ofList name, String.ofList (['='].intercalate value))
      | [] => none
  catch _ => return []

-- The program registers nothing.
open Bare

def missing? (e : Environment) (s : Storage) (c : Command) : Option String :=
  match (c.answer e s).run.1 with
  | .error (.load url .notFound) =>
    match Storage.sourceOf url with
    | .ok (.file path) => some (FilePath.ofString path).text
    | _ => none
  | _ => none

/-- The storage with all files that a command needs. -/
partial def provide (e : Environment) (c : Command) (s : Storage) : IO Storage := do
  match missing? e s c with
  | none => return s
  | some path =>
    match ← contentOnDisk? path with
    | none => return s
    | some content =>
      if (s.elsewhere.lookup path).isSome then return s
      else provide e c { s with elsewhere := (path, content) :: s.elsewhere }

def carryOut (arguments : List String) : IO Outcome := do
  let vars ← startVariables
  let home := FilePath.ofString ((Catalog.get? vars "HOME").getD "/")
  let e : Environment := { vars, home }
  match Invocation.ofArguments? arguments with
  | none => return Outcome.misuse
  | some i =>
    let settingsPath := (e.configDir.below "config.toml").text
    let known := (← contentOnDisk? settingsPath).map (settingsPath, ·)
    let s ← provide e i.command { elsewhere := known.toList }
    let outcome := i.command.run e s
    if i.verbose then
      for n in outcome.notices do IO.eprintln (n.severity.name ++ " xmlforge: " ++ n.text)
    return outcome

end Stagecraft

open Stagecraft in
def main (arguments : List String) : IO UInt32 := do
  let outcome ← carryOut arguments
  IO.print outcome.output
  IO.eprint outcome.errors
  match outcome.uncaught with
  | some f => IO.eprintln f.report
  | none => pure ()
  return UInt32.ofNat outcome.exit
