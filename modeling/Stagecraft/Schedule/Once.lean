import Stagecraft.Fault

/-!
# Computations that run once

A cell starts its computation when it is first asked and keeps the outcome, be it a value or a
fault. The computation goes on in steps of its own. Whoever asks when it has ended is answered at
once; the others wait, and each of them is woken some time after the end. A caller that gives up is
forgotten, and the computation goes on. `Once.step` says what each event does to a cell.
-/

namespace Stagecraft

/-- A computation that takes steps: it does one thing after the other and then has ended. -/
inductive Course (ε α : Type) where
  | ended (outcome : Except Fault α)
  | going (act : ε) (rest : Course ε α)

namespace Course

variable {ε α : Type}

/-- What a computation comes to. -/
def outcome : Course ε α → Except Fault α
  | ended r => r
  | going _ rest => rest.outcome

/-- What is still to be done. -/
def acts : Course ε α → List ε
  | ended _ => []
  | going act rest => act :: rest.acts

/-- The outcome, once the computation has ended. -/
def outcome? : Course ε α → Option (Except Fault α)
  | ended r => some r
  | going _ _ => none

/-- A computation that does some things first. -/
def after (acts : List ε) (c : Course ε α) : Course ε α := acts.foldr going c

end Course

/-- What may happen to a cell. Callers are numbered. -/
inductive OnceEvent where
  | ask (caller : Nat)
  | giveUp (caller : Nat)
  | progress
  | wake (caller : Nat)
  deriving DecidableEq, Repr

/-- A cell: how often its computation was started, what is left of the computation, what it has
done, the callers that wait, and what callers were told. -/
structure Once (ε α : Type) where
  starts : Nat := 0
  course : Option (Course ε α) := none
  acts : List ε := []
  waiting : List Nat := []
  answers : List (Nat × Except Fault α) := []

namespace Once

variable {ε α : Type}

def isStarted (o : Once ε α) : Bool := o.course.isSome

/-- The outcome that a cell keeps. -/
def outcome? (o : Once ε α) : Option (Except Fault α) := o.course.bind Course.outcome?

/-- A caller asks. The computation may depend on how often it was started. -/
def ask (start : Nat → Course ε α) (o : Once ε α) (caller : Nat) : Once ε α :=
  match o.course with
  | none =>
    { o with
      starts := o.starts + 1
      course := some (start (o.starts + 1))
      waiting := o.waiting ++ [caller] }
  | some (.going _ _) => { o with waiting := o.waiting ++ [caller] }
  | some (.ended r) => { o with answers := o.answers ++ [(caller, r)] }

def giveUp (o : Once ε α) (caller : Nat) : Once ε α :=
  { o with waiting := o.waiting.filter (· ≠ caller) }

/-- The computation does what comes next, if it has not ended. -/
def progress (o : Once ε α) : Once ε α :=
  match o.course with
  | some (.going act rest) => { o with course := some rest, acts := o.acts ++ [act] }
  | _ => o

/-- A caller that waits is told the outcome, if there is one. -/
def wake (o : Once ε α) (caller : Nat) : Once ε α :=
  match o.outcome? with
  | some r =>
    if caller ∈ o.waiting then
      { o.giveUp caller with answers := o.answers ++ [(caller, r)] }
    else o
  | none => o

def step (start : Nat → Course ε α) (o : Once ε α) : OnceEvent → Once ε α
  | .ask caller => o.ask start caller
  | .giveUp caller => o.giveUp caller
  | .progress => o.progress
  | .wake caller => o.wake caller

def run (start : Nat → Course ε α) (o : Once ε α) (events : List OnceEvent) : Once ε α :=
  events.foldl (step start) o

/-- What a caller was told, last of all. -/
def answer? (o : Once ε α) (caller : Nat) : Option (Except Fault α) :=
  (o.answers.reverse.find? (·.1 = caller)).map (·.2)

theorem run_nil (start : Nat → Course ε α) (o : Once ε α) : run start o [] = o := rfl

theorem run_cons (start : Nat → Course ε α) (o : Once ε α) (e : OnceEvent)
    (es : List OnceEvent) : run start o (e :: es) = run start (step start o e) es := rfl

theorem run_append (start : Nat → Course ε α) (o : Once ε α) (es fs : List OnceEvent) :
    run start o (es ++ fs) = run start (run start o es) fs := List.foldl_append

end Once

end Stagecraft
