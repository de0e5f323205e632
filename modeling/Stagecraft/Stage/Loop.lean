import Mathlib.Logic.Relation
import Stagecraft.Stage.Transition

/-!
# Loops

A scheduler of tasks runs in a loop, and the tasks that change the scene take their turns in it.
What a task does is fixed, with the order in which it is done; how the tasks take turns is not, nor
how long anything takes. Before a task arrives it has waited for sounds and pictures that the other
tasks load, and it fails if one of these does. A loop may be closed at any time, and the tasks that
are left are dropped. Host code fires events in a loop, in another thread while a loop is open, and
while none is.
-/

namespace Stagecraft

/-- What a task that changes the scene does in one go: tell something, or go to the scene. -/
inductive Act where
  | tell (n : Notice)
  | arrive

variable [Application]

namespace Stage

/-- One thing that a task does. The loads of others are waited for before it arrives. -/
def act (l : Loader) (limit : Nat) (name : String) (start : Start) (others : List Load) :
    Act → Play Unit
  | .tell n => report (.notice n)
  | .arrive => guarded name do
    let l' := { l with underway := l.underway ++ others }
    arrive (fire l limit) (← (SceneDraft.loadNamed l' name start).result)

/-- What a task that changes the scene does, in the order of time. -/
def acts (l : Loader) (name : String) (start : Start) : List Act :=
  let e := SceneDraft.loadNamed l name start
  let all := e.notices.map (fun n => (n.1, Act.tell n.2)) ++ [(e.moment, .arrive)]
  (all.mergeSort fun a b => !b.1.isBefore a.1).map (·.2)

end Stage

/-- A task that changes the scene, with what it has still to do. -/
structure Task where
  scene : String
  start : Start
  rest : List Act

/-- A stage and the tasks that have begun. -/
structure Loop where
  stage : Stage
  tasks : List Task := []

namespace Loop

/-- All that has been asked for is done. -/
def Done (v : Loop) : Prop := v.stage.pending = some [] ∧ ∀ task ∈ v.tasks, task.rest = []

/-- Loads of some tasks, whenever they have begun and end. -/
def LoadsOf (l : Loader) (tasks : List Task) (loads : List Load) : Prop :=
  ∀ u ∈ loads, ∃ task ∈ tasks,
    ∃ v ∈ (SceneDraft.loadNamed l task.scene task.start).loads, v.fault = u.fault

/-- A task that has been asked for begins, or one that has begun takes a turn, with some room at
least for nested events. -/
inductive Turn (l : Loader) (room : Nat) : Loop → Loop → Prop
  | begins {v : Loop} {name : String} {left : List String}
      (h : v.stage.pending = some (name :: left)) (start : Start) :
      Turn l room v ⟨{ v.stage with pending := some left },
        v.tasks ++ [⟨name, start, Stage.acts l name start⟩]⟩
  | works {s : Stage} {before later : List Task} {name : String} {start : Start} {a : Act}
      {rest : List Act} {others : List Load} (h : s.pending.isSome)
      (hothers : LoadsOf l (before ++ later) others) {limit : Nat} (hlimit : room ≤ limit) :
      Turn l room ⟨s, before ++ ⟨name, start, a :: rest⟩ :: later⟩
        ⟨((Stage.act l limit name start others a).run.run s).2,
          before ++ ⟨name, start, rest⟩ :: later⟩

/-- An event of a scene that host code fires, in the thread of the scheduler or in another one. -/
def fired (l : Loader) (limit : Nat) (aside : Bool) (n : Nat) (event : String)
    (payload : List Payload) (s : Stage) : Except Fault Unit × Stage :=
  let (result, t) := (Stage.fire l limit (.scene n) event payload).run.run { s with aside }
  (result, { t with aside := false })

/-- What may happen next: a turn, or something that is done by host code, inside of a loop or
outside. Host code may also open a loop for the end of one scene only. -/
inductive Step (l : Loader) : Loop → Loop → Prop
  | turn {v w : Loop} (h : Turn l 0 v w) : Step l v w
  | fires {v : Loop} {n : Nat} (h : n < v.stage.scenes.length) (limit : Nat) (aside : Bool)
      (event : String) (payload : List Payload) :
      Step l v { v with stage := (fired l limit aside n event payload v.stage).2 }
  | ends {v : Loop} {n : Nat} (h : n < v.stage.scenes.length) (hclosed : v.stage.pending = none)
      (limit : Nat) :
      Step l v { v with stage := ((Stage.endScheduled l limit n).run.run v.stage).2 }
  | opens {v : Loop} (h : v.stage.pending = none) :
      Step l v { stage := { v.stage with pending := some [] } }
  | closes {v : Loop} : Step l v { stage := { v.stage with pending := none } }

/-- What may happen in any number of steps. -/
def Run (l : Loader) : Loop → Loop → Prop := Relation.ReflTransGen (Step l)

end Loop

end Stagecraft
