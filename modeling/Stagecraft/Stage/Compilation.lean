import Stagecraft.Schedule.Once
import Stagecraft.Stage.Draft

/-!
# Compilations of scenes

A scene is compiled by one computation, whoever asks for it. The computation takes turns while
things are loaded; when all is in place, the world is settled in its last turn.
-/

namespace Stagecraft

open Markup

namespace SceneDraft

/-- What the compilation of a scene does in a turn. -/
inductive Turn where
  | prepare
  | settle
  deriving DecidableEq, Repr

variable [Application]

/-- The compilation of a scene that takes some turns until everything is in place. -/
def compilation (l : Loader) (c : Cursor) (turns : Nat) : Course Turn SceneDraft :=
  .after (List.replicate turns .prepare)
    (match (unsettled l c (({} : Start).later 1)).result with
    | .error f => .ended (.error f)
    | .ok d => .going .settle (.ended d.settle))

end SceneDraft

end Stagecraft
