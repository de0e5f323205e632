import Stagecraft.Fault

/-!
# Work that waits

Documents are built by tasks that take turns and wait for what they load. `Timed` is work with the
moment at which it ends: loads count for more than turns, so work that loads nothing is done before
any load has come. Work done side by side (`Timed.gather`) ends with the fault that comes first,
the earlier task winning a tie, or else when the last task has ended. On the way notices are given;
those after the end of the whole are not seen.

How long a load takes may depend on where in the work it is begun (`Start.branch`), so that of two
loads of one address either may end first. Loads that are waited for by everybody are remembered
(`Load`), and `Timed.complete` waits for those of other work.
-/

namespace Stagecraft

/-- A point in time: how many loads, one after the other, have come, and the turns since. -/
structure Moment where
  loads : Nat := 0
  turns : Nat := 0
  deriving DecidableEq, Repr

namespace Moment

def isBefore (a b : Moment) : Bool :=
  a.loads < b.loads || (a.loads = b.loads && a.turns < b.turns)

def later (a : Moment) (turns : Nat) : Moment := { a with turns := a.turns + turns }

/-- When a load has come. It may be slower than others. -/
def afterLoad (a : Moment) (delay : Nat) : Moment := ⟨a.loads + 1 + delay, 0⟩

def latest (a b : Moment) : Moment := if a.isBefore b then b else a

theorem isBefore_irrefl (a : Moment) : a.isBefore a = false := by simp [isBefore]

end Moment

/-- What is told on the way. -/
inductive Notice where
  | noDefaultTexture (blueprint : String)
  | redefined (object : String)
  | compiled (scene : Option String) (objects placements behaviors : Nat)
  | loading (scene url : String)
  deriving DecidableEq, Repr

/-- A load that others wait for as well, from its beginning to its end, with its fault if it
fails. -/
structure Load where
  start : Moment
  finish : Moment
  fault : Option Fault

namespace Load

/-- Has the load begun, and not ended yet? -/
def isUnderWay (u : Load) (m : Moment) : Bool := !m.isBefore u.start && m.isBefore u.finish

end Load

/-- How work has ended, with what was told and loaded on the way. -/
structure Ended (α : Type) where
  result : Except Fault α
  moment : Moment
  notices : List (Moment × Notice) := []
  loads : List Load := []

/-- When work starts, and which piece it is of the work that is done side by side, the innermost
first. -/
structure Start where
  moment : Moment := {}
  branch : List Nat := []

namespace Start

def later (s : Start) (turns : Nat) : Start := { s with moment := s.moment.later turns }

/-- The start of a piece of the work that is done side by side. -/
def piece (s : Start) (i : Nat) : Start := ⟨s.moment.later 1, i :: s.branch⟩

/-- The start of what comes next. -/
def resume (s : Start) (m : Moment) : Start := { s with moment := m }

@[simp] theorem resume_moment (s : Start) : s.resume s.moment = s := rfl

end Start

/-- Work that starts at a moment and ends at one. -/
def Timed (α : Type) : Type := Start → Ended α

namespace Timed

variable {α β : Type}

def lift (r : Except Fault α) : Timed α := fun s => { result := r, moment := s.moment }

/-- One piece of work after the other, unless the first fails. -/
def andThen (a : Timed α) (f : α → Timed β) : Timed β := fun s =>
  let first := a s
  match first.result with
  | .error e => { first with result := .error e }
  | .ok x =>
    let second := f x (s.resume first.moment)
    { second with
      notices := first.notices ++ second.notices
      loads := first.loads ++ second.loads }

instance : Monad Timed where
  pure a := lift (.ok a)
  bind := andThen

instance : MonadLift (Except Fault) Timed where
  monadLift := lift

def notice (n : Notice) : Timed Unit := fun s =>
  { result := .ok (), moment := s.moment, notices := [(s.moment, n)] }

/-- A load, which takes as long as it does where it is begun. -/
def load (delay : Start → Nat) (r : Except Fault α) : Timed α := fun s =>
  { result := r, moment := s.moment.afterLoad (delay s) }

/-- Work as a task of its own: it starts and is noticed to have ended some turns later. -/
def task (before after : Nat) (a : Timed α) : Timed α := fun s =>
  let e := a (s.later before)
  { e with moment := e.moment.later after }

/-- A load as a task of its own, which others wait for as well. -/
def tracked (a : Timed α) : Timed α := fun s =>
  let e := task 1 1 a s
  let fault := match e.result with
    | .ok _ => none
    | .error f => some f
  { e with loads := e.loads ++ [⟨s.moment, e.moment, fault⟩] }

/-- The first fault among pieces of work, with its moment. -/
def firstFault (es : List (Ended α)) : Option (Fault × Moment) :=
  es.foldl (fun found e =>
    match e.result, found with
    | .ok _, _ => found
    | .error f, none => some (f, e.moment)
    | .error f, some (g, m) => if e.moment.isBefore m then some (f, e.moment) else some (g, m)) none

/-- The values of work that has not failed. -/
def values (es : List (Ended α)) : List α := es.filterMap fun e => e.result.toOption

/-- Work done side by side. Without any there is nothing to wait for. -/
def gather (works : List (Timed α)) : Timed (List α) := fun s =>
  if works.isEmpty then { result := .ok [], moment := s.moment }
  else
    let es := works.mapIdx fun i w => w (s.piece i)
    let notices := (es.map (·.notices)).flatten
    let loads := (es.map (·.loads)).flatten
    match firstFault es with
    | some (f, at') => ⟨.error f, at'.later 2, notices, loads⟩
    | none =>
      let last := (es.map (·.moment)).foldl Moment.latest s.moment
      ⟨.ok (values es), last.later 2, notices, loads⟩

/-- Two pieces of work of different kinds, side by side. -/
def both (a : Timed α) (b : Timed β) : Timed (α × β) := fun s =>
  let first := a (s.piece 0)
  let second := b (s.piece 1)
  let notices := first.notices ++ second.notices
  let loads := first.loads ++ second.loads
  match first.result, second.result with
  | .ok x, .ok y => ⟨.ok (x, y), (first.moment.latest second.moment).later 2, notices, loads⟩
  | .error f, .ok _ => ⟨.error f, first.moment.later 2, notices, loads⟩
  | .ok _, .error g => ⟨.error g, second.moment.later 2, notices, loads⟩
  | .error f, .error g =>
    if second.moment.isBefore first.moment then
      ⟨.error g, second.moment.later 2, notices, loads⟩
    else ⟨.error f, first.moment.later 2, notices, loads⟩

/-- Waits for the loads that are under way, and then for those that have begun meanwhile. Every
round but the last one sees a load end, so there are at most so many. -/
def completeIn (loads : List Load) : Nat → Timed Unit
  | 0 => lift (.ok ())
  | rounds + 1 => fun s =>
    let open' := loads.filter (·.isUnderWay s.moment)
    let es : List (Ended Unit) := open'.map fun u =>
      { result := (u.fault.map .error).getD (.ok ()), moment := u.finish }
    if es.isEmpty then { result := .ok (), moment := s.moment }
    else
      match firstFault es with
      | some (f, at') => { result := .error f, moment := at'.later 2 }
      | none =>
        let last := (es.map (·.moment)).foldl Moment.latest s.moment
        completeIn loads rounds (s.resume (last.later 2))

/-- Waits until none of the loads is under way any more. -/
def complete (loads : List Load) : Timed Unit := completeIn loads loads.length

/-- The result of work from the start on, and what was told before it ended. -/
def run (a : Timed α) : Except Fault α × List Notice :=
  let e := a {}
  (e.result, (e.notices.filter fun n => !e.moment.isBefore n.1).map (·.2))

theorem run_lift (r : Except Fault α) : (lift r).run = (r, []) := rfl

@[simp] theorem complete_nil : complete [] = lift (.ok ()) := rfl

end Timed

end Stagecraft
