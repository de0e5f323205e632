import Stagecraft.Address.Path

/-!
# Arguments

What the program is asked to do. Options of the program come before the name of a command, and those
of a command anywhere after it. Two dashes alone end the options.
-/

namespace Stagecraft

inductive Command where
  | nothing
  | version
  | compile (path : FilePath) (baseUrl : Option String)
  | objects (path : FilePath)
  deriving DecidableEq, Repr

/-- A command, and whether its progress is told. -/
structure Invocation where
  command : Command
  verbose : Bool := false
  deriving DecidableEq, Repr

namespace Invocation

structure Flags where
  version : Bool := false
  verbose : Bool := false

def isOption (word : String) : Bool := word.startsWith "-" && word ≠ "-"

/-- The short option for the version, which may be given more than once in a word. -/
def isShortVersion (word : String) : Bool :=
  match word.toList with
  | '-' :: letters => !letters.isEmpty && letters.all (· = 'v')
  | _ => false

/-- The options in front of the command, and the words from there. -/
def flags? (f : Flags) : List String → Option (Flags × List String)
  | [] => some (f, [])
  | word :: words =>
    if word = "--" then some (f, words)
    else if word = "--version" || isShortVersion word then flags? { f with version := true } words
    else if word = "--verbose" then flags? { f with verbose := true } words
    else if isOption word then none
    else some (f, word :: words)

/-- What a command is given: words that are no options, and the address for documents without one
of their own. -/
structure Given where
  words : List String := []
  baseUrl : Option String := none

/-- Reads what a command is given. Of an option that comes more than once the last counts. -/
def given? (takesBaseUrl : Bool) (g : Given) : List String → Option Given
  | [] => some g
  | word :: words =>
    if word = "--" then some { g with words := g.words ++ words }
    else if takesBaseUrl && word = "--base-url" then
      match words with
      | url :: words => given? takesBaseUrl { g with baseUrl := some url } words
      | [] => none
    else if takesBaseUrl && word.startsWith "--base-url=" then
      let url := String.ofList (word.toList.drop "--base-url=".length)
      given? takesBaseUrl { g with baseUrl := some url } words
    else if isOption word then none
    else given? takesBaseUrl { g with words := g.words ++ [word] } words

/-- A command with the one path that it takes. -/
def withPath? (command : FilePath → Option String → Command) (takesBaseUrl : Bool)
    (words : List String) : Option Command := do
  let g ← given? takesBaseUrl {} words
  match g.words with
  | [path] => some (command (FilePath.ofString path) g.baseUrl)
  | _ => none

/-- The command with a name, applied to the words after it. -/
def command? (name : String) : Option (List String → Option Command) :=
  if name = "compile" then some (withPath? .compile true)
  else if name = "objects" then some (withPath? (fun path _ => .objects path) false)
  else none

/-- What the arguments ask for, unless they make no sense. Asking for the version makes what a known
command is given irrelevant. -/
def ofArguments? (arguments : List String) : Option Invocation := do
  if arguments.isEmpty then none
  let (f, words) ← flags? {} arguments
  let command ←
    match words with
    | [] => some (if f.version then .version else .nothing)
    | name :: words => do
      let read ← command? name
      if f.version then some .version else read words
  return { command, verbose := f.verbose }

end Invocation

end Stagecraft
