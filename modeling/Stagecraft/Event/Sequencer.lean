import Stagecraft.Catalog
import Stagecraft.Event.Action

/-!
# Sequencers

A sequencer plays one of its sequences, a step at a time. Here is what it knows: the registered
sequences, the one that is playing and the step that comes next. Running the actions of a step is
up to the host; the step is counted after they have run. What has been started is remembered, so
that it can be said of a run.
-/

namespace Stagecraft

/-- The sequences of a host and where it stands in the one it plays. The sequences that have been
started are in `starts`, the first one first. -/
structure Sequencer where
  sequences : Catalog (List (List Action)) := []
  active : Option String := none
  next : Nat := 0
  starts : List String := []

namespace Sequencer

/-- Registers a sequence, in the place of one with the same id. -/
def register (s : Sequencer) (d : SequenceDef) : Sequencer :=
  { s with sequences := s.sequences.put d.id d.steps }

/-- A sequence is playing now, and its first step comes next. -/
def start (s : Sequencer) (id : String) : Sequencer :=
  { s with active := some id, next := 0, starts := s.starts ++ [id] }

def play? (s : Sequencer) (id : String) : Option Sequencer :=
  if s.sequences.has id then some (s.start id) else none

/-- The actions of the step that comes next. -/
def step? (s : Sequencer) : Option (List Action) := do
  let steps ← s.sequences.get? (← s.active)
  steps[s.next]?

def stop (s : Sequencer) : Sequencer := { s with active := none }

/-- The step has run. -/
def count (s : Sequencer) : Sequencer := { s with next := s.next + 1 }

theorem step?_of_inactive (s : Sequencer) (h : s.active = none) : s.step? = none := by
  simp [step?, h]

theorem play?_eq_none_iff (s : Sequencer) (id : String) :
    s.play? id = none ↔ s.sequences.has id = false := by
  simp [play?]

end Sequencer

end Stagecraft
