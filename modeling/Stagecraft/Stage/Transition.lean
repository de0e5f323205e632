import Stagecraft.Stage.Play

/-!
# Transitions

A scene that ends while the scheduler of tasks is running starts a task for each scene that comes
after it. The tasks are waited for, and take their turns in the order of the moments at which
something happens in them. A task that fails is reported, and the game stays where it is.
-/

namespace Stagecraft

namespace Stage

def guarded (scene : String) (body : Play Unit) : Play Unit :=
  tryCatch body fun f => report (.switchFailed scene f)

variable [Application]

/-- Changes of scene that were asked for since the last time. They begin, and are not waited for. -/
def commencePending (l : Loader) : Play Unit := do
  let left := ((← get).pending).getD []
  modify fun s => { s with pending := some [] }
  for scene in left do commence l scene

/-- What a task that changes the scene does, and when. -/
def timeline (l : Loader) (limit : Nat) (scene : String) (start : Start) :
    List (Moment × Play Unit) :=
  let e := SceneDraft.loadNamed l scene start
  let arrival : Play Unit := do
    guarded scene do arrive (fire l limit) (← e.result)
    commencePending l
  e.notices.map (fun n => (n.1, report (.notice n.2))) ++ [(e.moment, arrival)]

/-- What tasks do that begin together, each of them waiting for what the others load. -/
def timelines (l : Loader) (limit : Nat) (scenes : List String) :
    List (List (Moment × Play Unit)) :=
  let start (i : Nat) : Start := { branch := [i] }
  let loads := scenes.mapIdx fun i scene => (SceneDraft.loadNamed l scene (start i)).loads
  scenes.mapIdx fun i scene =>
    timeline { l with underway := l.underway ++ (loads.eraseIdx i).flatten } limit scene (start i)

/-- What tasks do, in the order of time. -/
def interleave (tasks : List (List (Moment × Play Unit))) : List (Play Unit) :=
  (tasks.flatten.mergeSort fun a b => !b.1.isBefore a.1).map (·.2)

/-- Ends a scene while the scheduler of tasks is running, and waits for the tasks that this
starts. -/
def endScheduled (l : Loader) (limit : Nat) (n : Nat) : Play Unit :=
  scheduled l do
    fire l limit (.scene n) SceneDraft.endEvent []
    let tasks := ((← get).pending).getD []
    modify fun s => { s with pending := some [] }
    (interleave (timelines l limit tasks)).forM id

end Stage

end Stagecraft
