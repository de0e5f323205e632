import Stagecraft.Stage.Basic

/-!
# Playing

Events are dispatched to the handlers of a host in the order in which they were bound, each handler
running to its end before the next. A handler may fire other events, so dispatching is nested; it
may not be nested deeper than a limit, which is what whoever fires an event has left of the stack.
Actions take no payload: an event that brings one to them fails.

A change of scene is either made at once or, while the scheduler of tasks is running, left to a
task. When the scheduler stops, tasks that are left are dropped; they have only come to their first
load.
-/

namespace Stagecraft

namespace Stage

/-- How events are fired: at a host, by name and with a payload. -/
abbrev Firing := Host → String → List Payload → Play Unit

/-- The event that a sound is played by. -/
def audioEvent : String := "emit-audio"

def report (r : Report) : Play Unit := modify (·.tell r)

/-- Plays a sound, if the host has it. -/
def emitAudio (fire : Firing) (h : Host) (id : String) : Play Unit := do
  let s ← get
  match (s.audio h).get? id with
  | none => report (s.noSound id h)
  | some clip => fire h audioEvent [.clip clip]

def play (h : Host) (id : String) : Play Unit := do
  let s ← get
  match (s.sequencer h).play? id with
  | none => throw (.sequenceUnregistered id)
  | some q => set (s.withSequencer (fun _ => q) h)

def perform (fire : Firing) (h : Host) : Action → Play Unit
  | .emitAudio id => emitAudio fire h id
  | .emit event => fire h event []
  | .play id => play h id

def performAll (fire : Firing) (h : Host) (as : List Action) : Play Unit := as.forM (perform fire h)

theorem performAll_nil (fire : Firing) (h : Host) : performAll fire h [] = pure () := rfl

theorem performAll_cons (fire : Firing) (h : Host) (a : Action) (as : List Action) :
    performAll fire h (a :: as) = perform fire h a *> performAll fire h as := by
  simp [performAll, List.forM_cons, seqRight_eq_bind]

variable [Application]

/-- Brings a new entity next to a host, if that is in a world. -/
def spawn (h : Host) (c : SpawnCondition) : Play Unit := do
  let s ← get
  match h with
  | .scene _ => return ()
  | .entity n =>
    match (s.entity n).world with
    | none => return ()
    | some w =>
      let e ← c.constructor.make
      set (s.bringInto w { e with position := (s.entity n).position.add c.offset })

/-- The game is now in a scene, which starts. -/
def enter (fire : Firing) (n : Nat) : Play Unit := do
  modify fun s => { s.tell (.switching (s.scene n).name) with game := some n }
  fire (.scene n) SceneDraft.startEvent []

/-- The game is now in a scene that has just been compiled. -/
def arrive (fire : Firing) (d : SceneDraft) : Play Unit := do
  let n := (← get).scenes.length
  modify (·.raise d)
  enter fire n

/-- The first steps of a task that changes the scene, up to its first load. -/
def commence (l : Loader) (scene : String) : Play Unit := do
  let e := SceneDraft.loadNamed l scene {}
  for n in e.notices do
    if n.1.loads = 0 then report (.notice n.2)
  match e.result with
  | .error f => if e.moment.loads = 0 then report (.switchFailed scene f)
  | .ok _ => return ()

/-- Runs with the scheduler of tasks. The tasks that have not been taken up begin, and no more. -/
def scheduled (l : Loader) (body : Play Unit) : Play Unit := do
  modify fun s => { s with pending := some [] }
  let result ← (tryCatch (body *> pure none) fun f => pure (some f) : Play (Option Fault))
  let left := ((← get).pending).getD []
  modify fun s => { s with pending := none }
  for scene in left do commence l scene
  match result with
  | some f => throw f
  | none => return ()

/-- Leaves a change of scene to a task, which nobody waits for. -/
def postpone (scene : String) : Play Unit :=
  modify fun s => { s with pending := s.pending.map (· ++ [scene]) }

def switch (l : Loader) (fire : Firing) (scene : String) : Play Unit := do
  let s ← get
  match s.pending, s.aside with
  | some _, false => postpone scene
  -- the scheduler runs in another thread, and the task is handed over to it
  | some _, true => postpone scene
  | none, _ =>
    let (result, notices) := (SceneDraft.loadNamed l scene).run
    for n in notices do report (.notice n)
    let d ← result
    scheduled l (arrive fire d)

def handle (l : Loader) (fire : Firing) (h : Host) (event : String) (payload : List Payload) :
    Handler → Play Unit
  | .actions as => if payload.isEmpty then performAll fire h as else throw .typeMismatch
  | .spawn c => spawn h c
  | .switch scene => switch l fire scene
  | .listener label => report (.heard label event payload)

/-- Fires an event, with a limit to how deep events may be nested. -/
def fire (l : Loader) : Nat → Firing
  | 0, _, _, _ => throw .endlessRecursion
  | limit + 1, h, event, payload => do
    for handler in ((← get).bus h).bound event do
      handle l (fire l limit) h event payload handler

/-- Runs the next step of the sequence that a host plays, if there is one. A step is counted after
its actions have run. -/
def advance (l : Loader) (limit : Nat) (h : Host) : Play Bool := do
  let s ← get
  match (s.sequencer h).active, (s.sequencer h).step? with
  | none, _ => return false
  | some _, none =>
    set (s.withSequencer Sequencer.stop h)
    return false
  | some _, some as =>
    performAll (fire l limit) h as
    modify fun s => s.withSequencer Sequencer.count h
    return true

theorem fire_zero (l : Loader) (h : Host) (event : String) (payload : List Payload) :
    fire l 0 h event payload = throw .endlessRecursion := rfl

end Stage

end Stagecraft
