import Stagecraft.Markup.Attribute

/-!
# Actions, events and sequences

What documents declare about behaviour: actions, lists of actions bound to the name of an event, and
sequences of steps, each step a list of actions.
-/

namespace Stagecraft

open Markup

inductive Action where
  | emitAudio (id : String)
  | emit (event : String)
  | play (sequence : String)
  deriving Repr, DecidableEq

/-- An event and what its host does when it fires. -/
structure EventBinding where
  name : String
  actions : List Action
  deriving Repr, DecidableEq

/-- A sequence and the actions of each of its steps. -/
structure SequenceDef where
  id : String
  steps : List (List Action)
  deriving Repr, DecidableEq

namespace Action

/-- An attribute that an action cannot do without. -/
def needed (c : Cursor) (name : String) : Except Fault String :=
  match (c.get? name).filter (· ≠ "") with
  | some value => .ok value
  | none => .error (.defect (.actionNeeds (c.get? "type") name) c.element)

def ofElement (c : Cursor) : Except Fault Action :=
  match c.get? "type" with
  | some "emit-audio" => (needed c "id").map .emitAudio
  | some "emit" => (needed c "event").map .emit
  | some "sequence" => (needed c "id").map .play
  | kind => .error (.defect (.actionKind kind) c.element)

def allOf (c : Cursor) : Except Fault (List Action) := (c.childrenTagged "action").mapM ofElement

end Action

namespace EventBinding

def ofElement (c : Cursor) : Except Fault EventBinding :=
  match (c.get? "name").filter (· ≠ "") with
  | none => .error (.defect .eventName c.element)
  | some name => (Action.allOf c).map fun actions => ⟨name, actions⟩

def allOf (c : Cursor) : Except Fault (List EventBinding) := do
  c.ensure ["events"]
  (c.childrenTagged "event").mapM ofElement

end EventBinding

namespace SequenceDef

def ofElement (c : Cursor) : Except Fault SequenceDef :=
  match (c.get? "id").filter (· ≠ "") with
  | none => .error (.defect .sequenceId c.element)
  | some id => ((c.childrenTagged "step").mapM Action.allOf).map fun steps => ⟨id, steps⟩

def allOf (c : Cursor) : Except Fault (List SequenceDef) := do
  c.ensure ["sequences"]
  (c.childrenTagged "sequence").mapM ofElement

end SequenceDef

end Stagecraft
