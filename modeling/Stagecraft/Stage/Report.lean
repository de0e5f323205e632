import Stagecraft.Loading.Loader
import Stagecraft.Trait.Value

/-!
# Reports

What is told while content is built and run: notices of the work that builds it, sounds that are
missing, changes of scene, and events that somebody listens to.
-/

namespace Stagecraft

/-- Something that is handed to the handlers of an event. -/
inductive Payload where
  | value (v : Value)
  | clip (c : Clip)

inductive Severity where
  | debug
  | info
  | warning
  | error
  deriving DecidableEq, Repr

namespace Severity

def name : Severity → String
  | debug => "DEBUG"
  | info => "INFO"
  | warning => "WARNING"
  | error => "ERROR"

end Severity

namespace Notice

def severity : Notice → Severity
  | noDefaultTexture _ => .warning
  | redefined _ => .debug
  | compiled _ _ _ _ => .info
  | loading _ _ => .info

def text : Notice → String
  | noDefaultTexture blueprint => "No default texture on blueprint " ++ blueprint
  | redefined object => "Object " ++ object ++ " redefined by a later pool"
  | compiled scene objects placements behaviors =>
    "Compiled scene " ++ shown scene ++ ": " ++ toString objects ++ " objects, " ++
      toString placements ++ " placements, " ++ toString behaviors ++ " behaviors"
  | loading scene url => "Loading scene " ++ scene ++ " from " ++ url

end Notice

/-- What is told while a stage runs. -/
inductive Report where
  | notice (n : Notice)
  | noSound (kind : String) (host : Option String) (id : String)
  | switching (scene : Option String)
  | switchFailed (scene : String) (reason : Fault)
  | heard (label event : String) (payload : List Payload)

namespace Report

/-- The severity of a message; what is only heard has none. -/
def severity? : Report → Option Severity
  | notice n => some n.severity
  | noSound _ _ _ => some .warning
  | switching _ => some .info
  | switchFailed _ _ => some .error
  | heard _ _ _ => none

def text : Report → String
  | notice n => n.text
  | noSound kind host id => kind ++ " " ++ shown host ++ " has no audio " ++ Text.quoted id
  | switching scene => "Switching to scene " ++ shown scene
  | switchFailed scene reason => "Switching to scene " ++ scene ++ " failed: " ++ reason.report
  | heard _ event _ => event

end Report

end Stagecraft
