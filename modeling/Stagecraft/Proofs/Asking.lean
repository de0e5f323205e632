import Mathlib.Data.List.Count
import Stagecraft.Proofs.Waiting
import Stagecraft.Stage.Compilation

/-!
# Asking for what is computed once

However calls, callers that give up, turns of the computation and answers follow one another, a cell
starts its computation at the first call and then only goes on with it. What has been done and what
is left are, together, what the one computation does (`Keeps`), and all answers are its outcome. The
claims about runs follow one event at a time.
-/

namespace Stagecraft

namespace Course

variable {ε α : Type}

theorem acts_after (as : List ε) (c : Course ε α) : (c.after as).acts = as ++ c.acts := by
  induction as with
  | nil => rfl
  | cons a as ih => exact congrArg (a :: ·) ih

theorem outcome_after (as : List ε) (c : Course ε α) : (c.after as).outcome = c.outcome := by
  induction as with
  | nil => rfl
  | cons a as ih => exact ih

end Course

namespace OnceEvent

def isAsk : OnceEvent → Bool
  | ask _ => true
  | _ => false

/-- Does one of some callers give up? -/
def isGiveUpOf (gone : Nat → Bool) : OnceEvent → Bool
  | giveUp caller => gone caller
  | _ => false

end OnceEvent

namespace Once

variable {ε α : Type} {start : Nat → Course ε α} {o p : Once ε α} {caller : Nat}
  {events : List OnceEvent}

/-- A cell is new, or its one computation has done some of its acts and the others are left; all who
were told something were told its outcome. -/
inductive Keeps (start : Nat → Course ε α) : Once ε α → Prop
  | new : Keeps start {}
  | started {c : Course ε α} {acts : List ε} {waiting : List Nat}
      {answers : List (Nat × Except Fault α)} (hacts : (start 1).acts = acts ++ c.acts)
      (houtcome : c.outcome = (start 1).outcome)
      (hanswers : ∀ a ∈ answers, a.2 = (start 1).outcome) :
      Keeps start ⟨1, some c, acts, waiting, answers⟩

theorem Keeps.ask (h : Keeps start o) (caller : Nat) : Keeps start (o.ask start caller) := by
  cases h with
  | new => exact .started rfl rfl (by simp)
  | @started c acts waiting answers hacts houtcome hanswers =>
      cases c with
      | going act rest => exact .started hacts houtcome hanswers
      | ended r =>
          have hnew : ∀ a ∈ [(caller, r)], a.2 = (start 1).outcome :=
            List.forall_mem_singleton.2 houtcome
          exact .started hacts houtcome (List.forall_mem_append.2 ⟨hanswers, hnew⟩)

theorem Keeps.giveUp (h : Keeps start o) (caller : Nat) : Keeps start (o.giveUp caller) := by
  cases h with
  | new => exact .new
  | started hacts houtcome hanswers => exact .started hacts houtcome hanswers

theorem Keeps.progress (h : Keeps start o) : Keeps start o.progress := by
  cases h with
  | new => exact .new
  | @started c acts waiting answers hacts houtcome hanswers =>
      cases c with
      | ended r => exact .started hacts houtcome hanswers
      | going act rest =>
          refine .started ?_ houtcome hanswers
          rw [hacts, List.append_assoc]
          rfl

theorem Keeps.wake (h : Keeps start o) (caller : Nat) : Keeps start (o.wake caller) := by
  cases h with
  | new => exact .new
  | @started c acts waiting answers hacts houtcome hanswers =>
      cases c with
      | going act rest => exact .started hacts houtcome hanswers
      | ended r =>
          unfold Once.wake
          dsimp only [outcome?, Option.bind, Course.outcome?]
          split
          · have hnew : ∀ a ∈ [(caller, r)], a.2 = (start 1).outcome :=
              List.forall_mem_singleton.2 houtcome
            exact .started hacts houtcome (List.forall_mem_append.2 ⟨hanswers, hnew⟩)
          · exact .started hacts houtcome hanswers

theorem Keeps.step (h : Keeps start o) (e : OnceEvent) : Keeps start (o.step start e) := by
  cases e with
  | ask caller => exact h.ask caller
  | giveUp caller => exact h.giveUp caller
  | progress => exact h.progress
  | wake caller => exact h.wake caller

theorem keeps_run (start : Nat → Course ε α) (events : List OnceEvent) :
    Keeps start (run start {} events) := by
  have hrun (o : Once ε α) (h : Keeps start o) : Keeps start (run start o events) := by
    induction events generalizing o with
    | nil => exact h
    | cons e events ih => exact ih _ (h.step e)
  exact hrun {} .new

namespace Keeps

theorem answers (h : Keeps start o) : ∀ a ∈ o.answers, a.2 = (start 1).outcome := by
  cases h with
  | new => simp
  | started _ _ hanswers => exact hanswers

theorem acts (h : Keeps start o) : o.acts <+: (start 1).acts := by
  cases h with
  | new => exact List.nil_prefix
  | started hacts => exact ⟨_, hacts.symm⟩

theorem exists_course (h : Keeps start o) (hstarted : o.isStarted) :
    ∃ c, o.course = some c ∧ c.acts <:+ (start 1).acts := by
  cases h with
  | new => cases hstarted
  | started hacts => exact ⟨_, rfl, _, hacts.symm⟩

/-- When the computation has ended, it has done all it had to do, and its outcome is known. -/
theorem ended (h : Keeps start o) {r : Except Fault α} (hr : o.outcome? = some r) :
    r = (start 1).outcome ∧ o.acts = (start 1).acts := by
  cases h with
  | new => cases hr
  | @started c _ _ _ hacts houtcome _ =>
      cases c with
      | going act rest => cases hr
      | ended r' =>
          cases hr
          exact ⟨houtcome, (hacts.trans (List.append_nil _)).symm⟩

end Keeps

theorem course_ask {c : Course ε α} (h : o.course = some c) :
    (o.ask start caller).course = some c := by
  unfold ask
  rw [h]
  cases c with
  | ended r => rfl
  | going act rest => rfl

theorem course_wake (o : Once ε α) (caller : Nat) : (o.wake caller).course = o.course := by
  unfold wake
  split
  · split
    · rfl
    · rfl
  · rfl

/-- A computation that has been started is not touched by callers. -/
theorem course_step {c : Course ε α} (h : o.course = some c) {e : OnceEvent} (he : e ≠ .progress) :
    (o.step start e).course = some c := by
  cases e with
  | ask caller => exact course_ask h
  | giveUp caller => exact h
  | progress => exact absurd rfl he
  | wake caller => exact (course_wake o caller).trans h

/-- Nothing but a caller that asks starts the computation. -/
theorem isStarted_step (o : Once ε α) (e : OnceEvent) :
    (o.step start e).isStarted = (o.isStarted || e.isAsk) := by
  cases e with
  | ask caller =>
      change (o.ask start caller).course.isSome = (o.course.isSome || true)
      unfold ask
      split <;> simp [*]
  | giveUp caller => exact (Bool.or_false _).symm
  | progress =>
      change o.progress.course.isSome = (o.course.isSome || false)
      unfold progress
      split <;> simp [*]
  | wake caller =>
      change (o.wake caller).course.isSome = (o.course.isSome || false)
      rw [course_wake, Bool.or_false]

theorem isStarted_run (o : Once ε α) :
    (run start o events).isStarted = (o.isStarted || events.any OnceEvent.isAsk) := by
  induction events generalizing o with
  | nil => exact (Bool.or_false _).symm
  | cons e events ih => rw [run_cons, ih, isStarted_step, List.any_cons, Bool.or_assoc]

/-- The computation is started by the first caller that asks, and never again. -/
theorem starts_run (start : Nat → Course ε α) (events : List OnceEvent) :
    (run start {} events).starts = if events.any OnceEvent.isAsk then 1 else 0 := by
  have hstarted : (run start {} events).isStarted = events.any OnceEvent.isAsk :=
    (isStarted_run {}).trans (Bool.false_or _)
  have hkeeps := keeps_run start events
  rw [← hstarted]
  generalize run start {} events = o at hkeeps
  cases hkeeps with
  | new => rfl
  | started => rfl

/-- A caller that a cell has not forgotten: it waits, or it was told something. -/
def Knows (o : Once ε α) (caller : Nat) : Prop :=
  caller ∈ o.waiting ∨ ∃ r, (caller, r) ∈ o.answers

theorem knows_ask (start : Nat → Course ε α) (o : Once ε α) (caller : Nat) :
    (o.ask start caller).Knows caller := by
  unfold ask
  split
  · exact .inl (by simp)
  · exact .inl (by simp)
  · exact .inr ⟨_, List.mem_append_right _ (List.mem_singleton_self _)⟩

theorem Knows.ask (h : o.Knows caller) (other : Nat) : (o.ask start other).Knows caller := by
  unfold Once.ask
  split
  · exact h.imp_left fun h => List.mem_append_left _ h
  · exact h.imp_left fun h => List.mem_append_left _ h
  · exact h.imp_right fun ⟨r, hr⟩ => ⟨r, List.mem_append_left _ hr⟩

theorem Knows.giveUp (h : o.Knows caller) {other : Nat} (hne : caller ≠ other) :
    (o.giveUp other).Knows caller :=
  h.imp_left fun h => List.mem_filter.2 ⟨h, by simpa using hne⟩

/-- A caller that is woken is told something. -/
theorem Knows.wake (h : o.Knows caller) (other : Nat) : (o.wake other).Knows caller := by
  unfold Once.wake
  split
  · split
    · by_cases hne : caller = other
      · subst hne
        exact .inr ⟨_, List.mem_append_right _ (List.mem_singleton_self _)⟩
      · exact (h.giveUp hne).imp_right fun ⟨r, hr⟩ => ⟨r, List.mem_append_left _ hr⟩
    · exact h
  · exact h

theorem Knows.step (h : o.Knows caller) {e : OnceEvent} (he : e ≠ .giveUp caller) :
    (o.step start e).Knows caller := by
  cases e with
  | ask other => exact h.ask other
  | giveUp other => exact h.giveUp fun hne => he (hne ▸ rfl)
  | progress =>
      change o.progress.Knows caller
      unfold progress
      split
      · exact h
      · exact h
  | wake other => exact h.wake other

theorem Knows.run (h : o.Knows caller) (hstays : .giveUp caller ∉ events) :
    (run start o events).Knows caller := by
  induction events generalizing o with
  | nil => exact h
  | cons e events ih =>
      obtain ⟨he, hevents⟩ := not_or.1 (List.mem_cons.not.1 hstays)
      exact ih (h.step fun h => he h.symm) hevents

/-- Who has asked and not given up is known. -/
theorem knows_run (o : Once ε α) (hasks : .ask caller ∈ events)
    (hstays : .giveUp caller ∉ events) : (run start o events).Knows caller := by
  induction events generalizing o with
  | nil => cases hasks
  | cons e events ih =>
      obtain ⟨-, hevents⟩ := not_or.1 (List.mem_cons.not.1 hstays)
      rcases List.mem_cons.1 hasks with rfl | hasks
      · exact (knows_ask start o caller).run hevents
      · exact ih _ hasks hevents

/-- A computation ends when it has taken its steps. -/
theorem outcome?_run {c : Course ε α} (h : o.course = some c)
    (hprogress : c.acts.length ≤ events.count .progress) :
    (run start o events).outcome? = some c.outcome := by
  induction events generalizing o c with
  | nil =>
      cases c with
      | ended r => simp [run_nil, Once.outcome?, h, Course.outcome?, Course.outcome]
      | going act rest => simp [Course.acts] at hprogress
  | cons e events ih =>
      rw [run_cons]
      by_cases he : e = .progress
      · subst he
        rw [List.count_cons_self] at hprogress
        cases c with
        | ended r =>
            refine ih (c := .ended r) ?_ (Nat.zero_le _)
            simp [step, progress, h]
        | going act rest =>
            refine ih (c := rest) ?_ ?_
            · simp [step, progress, h]
            · simpa [Course.acts] using hprogress
      · rw [List.count_cons_of_ne fun h => he h] at hprogress
        exact ih (course_step h he) hprogress

/-- A known caller that is woken in the end has been told the outcome. -/
theorem mem_answers_wake (hkeeps : Keeps start o) {r : Except Fault α} (hr : o.outcome? = some r)
    (h : o.Knows caller) : (caller, (start 1).outcome) ∈ (o.wake caller).answers := by
  have houtcome := (hkeeps.ended hr).1
  unfold wake
  rw [hr]
  dsimp only
  split
  · rw [houtcome]
    exact List.mem_append_right _ (List.mem_singleton_self _)
  · rename_i hwaits
    obtain ⟨r', hr'⟩ := h.resolve_left hwaits
    have hsame : r' = (start 1).outcome := hkeeps.answers _ hr'
    rwa [← hsame]

/-- What was told stays told. -/
theorem mem_answers_step {a : Nat × Except Fault α} (ha : a ∈ o.answers) (e : OnceEvent) :
    a ∈ (o.step start e).answers := by
  cases e with
  | ask caller =>
      change a ∈ (o.ask start caller).answers
      unfold ask
      split
      · exact ha
      · exact ha
      · exact List.mem_append_left _ ha
  | giveUp caller => exact ha
  | progress =>
      change a ∈ o.progress.answers
      unfold progress
      split
      · exact ha
      · exact ha
  | wake caller =>
      change a ∈ (o.wake caller).answers
      unfold wake
      split
      · split
        · exact List.mem_append_left _ ha
        · exact ha
      · exact ha

theorem mem_answers_run {a : Nat × Except Fault α} (ha : a ∈ o.answers)
    (events : List OnceEvent) : a ∈ (run start o events).answers := by
  induction events generalizing o with
  | nil => exact ha
  | cons e events ih => exact ih (mem_answers_step ha e)

/-- Two cells that differ at most in what they know of some callers. -/
structure Alike (gone : Nat → Bool) (o p : Once ε α) : Prop where
  starts : o.starts = p.starts
  course : o.course = p.course
  acts : o.acts = p.acts
  waiting : o.waiting.filter (!gone ·) = p.waiting.filter (!gone ·)
  answers : o.answers.filter (!gone ·.1) = p.answers.filter (!gone ·.1)

namespace Alike

variable {gone : Nat → Bool}

theorem refl (gone : Nat → Bool) (o : Once ε α) : Alike gone o o := ⟨rfl, rfl, rfl, rfl, rfl⟩

theorem symm (h : Alike gone o p) : Alike gone p o :=
  ⟨h.starts.symm, h.course.symm, h.acts.symm, h.waiting.symm, h.answers.symm⟩

theorem trans {q : Once ε α} (h : Alike gone o p) (h' : Alike gone p q) : Alike gone o q :=
  ⟨h.starts.trans h'.starts, h.course.trans h'.course, h.acts.trans h'.acts,
    h.waiting.trans h'.waiting, h.answers.trans h'.answers⟩

theorem giveUp_of_gone (hgone : gone caller) (o : Once ε α) : Alike gone (o.giveUp caller) o := by
  refine ⟨rfl, rfl, rfl, ?_, rfl⟩
  rw [giveUp, List.filter_filter]
  apply List.filter_congr
  intro other _
  by_cases hother : other = caller
  · simp [hother, hgone]
  · simp [hother]

theorem wake_of_gone (hgone : gone caller) (o : Once ε α) : Alike gone (o.wake caller) o := by
  unfold wake
  split
  · split
    · obtain ⟨-, -, -, hwaiting, -⟩ := giveUp_of_gone hgone o
      exact ⟨rfl, rfl, rfl, hwaiting, by simp [hgone]⟩
    · exact refl gone o
  · exact refl gone o

theorem ask (h : Alike gone o p) (caller : Nat) :
    Alike gone (o.ask start caller) (p.ask start caller) := by
  unfold Once.ask
  rw [h.course]
  split
  · exact ⟨by simp [h.starts], by simp [h.starts], h.acts, by simp [h.waiting], h.answers⟩
  · exact ⟨h.starts, rfl, h.acts, by simp [h.waiting], h.answers⟩
  · exact ⟨h.starts, rfl, h.acts, h.waiting, by simp [h.answers]⟩

theorem giveUp (h : Alike gone o p) (caller : Nat) :
    Alike gone (o.giveUp caller) (p.giveUp caller) := by
  refine ⟨h.starts, h.course, h.acts, ?_, h.answers⟩
  unfold Once.giveUp
  rw [List.filter_comm, h.waiting, List.filter_comm]

theorem progress (h : Alike gone o p) : Alike gone o.progress p.progress := by
  unfold Once.progress
  rw [h.course]
  split
  · exact ⟨h.starts, rfl, by simp [h.acts], h.waiting, h.answers⟩
  · exact h

/-- Callers that are not left out of account wait in both cells or in none. -/
theorem mem_waiting_iff (h : Alike gone o p) (hstays : gone caller = false) :
    caller ∈ o.waiting ↔ caller ∈ p.waiting := by
  have hmem := congrArg (caller ∈ ·) h.waiting
  simpa [hstays] using hmem

theorem wake (h : Alike gone o p) (caller : Nat) :
    Alike gone (o.wake caller) (p.wake caller) := by
  by_cases hgone : gone caller
  · exact (wake_of_gone hgone o).trans (h.trans (wake_of_gone hgone p).symm)
  · have hwaiting := h.mem_waiting_iff (eq_false_of_ne_true hgone)
    have hgiveUp := h.giveUp caller
    unfold Once.wake outcome?
    rw [h.course]
    split
    · by_cases hmem : caller ∈ p.waiting
      · rw [if_pos (hwaiting.2 hmem), if_pos hmem]
        exact ⟨h.starts, h.course, h.acts, hgiveUp.waiting, by simp [h.answers]⟩
      · rw [if_neg fun h => hmem (hwaiting.1 h), if_neg hmem]
        exact h
    · exact h

theorem step (h : Alike gone o p) (e : OnceEvent) :
    Alike gone (o.step start e) (p.step start e) := by
  cases e with
  | ask caller => exact h.ask caller
  | giveUp caller => exact h.giveUp caller
  | progress => exact h.progress
  | wake caller => exact h.wake caller

/-- Callers that give up make no difference to the others. -/
theorem run_filter (h : Alike gone o p) (events : List OnceEvent) :
    Alike gone (run start o events)
      (run start p (events.filter (!OnceEvent.isGiveUpOf gone ·))) := by
  induction events generalizing o p with
  | nil => exact h
  | cons e events ih =>
      by_cases he : e.isGiveUpOf gone
      · rw [List.filter_cons_of_neg (by simpa using he)]
        cases e with
        | giveUp caller => exact ih ((giveUp_of_gone he o).trans h)
        | ask caller => cases he
        | progress => cases he
        | wake caller => cases he
      · rw [List.filter_cons_of_pos (by simpa using he)]
        exact ih (h.step e)

end Alike

/-- What a cell promises, whatever happens to it. -/
structure Shared (start : Nat → Course ε α) : Prop where
  /-- The computation is started when someone asks for the first time, and not again. -/
  starts : ∀ events, (run start {} events).starts = if events.any OnceEvent.isAsk then 1 else 0
  /-- What is done is done by that one computation. -/
  acts : ∀ events, (run start {} events).acts <+: (start 1).acts
  /-- All who are told something are told the same. -/
  same : ∀ events, ∀ a ∈ (run start {} events).answers, a.2 = (start 1).outcome
  /-- Who has asked and does not give up is told, if the loop keeps running: the computation takes
  the steps that it needs, and then the caller is woken. -/
  served : ∀ caller events more rest, .ask caller ∈ events → .giveUp caller ∉ events ++ more →
    (start 1).acts.length ≤ more.count .progress →
      (caller, (start 1).outcome) ∈
        (run start {} (events ++ (more ++ .wake caller :: rest))).answers
  /-- Callers that give up change nothing but what they know themselves. -/
  undisturbed : ∀ gone events, Alike gone (run start {} events)
    (run start {} (events.filter (!OnceEvent.isGiveUpOf gone ·)))

theorem shared (start : Nat → Course ε α) : Shared start := by
  constructor
  · exact starts_run start
  · exact fun events => (keeps_run start events).acts
  · exact fun events => (keeps_run start events).answers
  · intro caller events more rest hasks hstays hprogress
    have hstays' := not_or.1 (List.mem_append.not.1 hstays)
    have hstarted : (run start {} events).isStarted := by
      rw [isStarted_run, Bool.or_eq_true]
      exact .inr (List.any_eq_true.2 ⟨_, hasks, rfl⟩)
    obtain ⟨c, hc, hleft⟩ := (keeps_run start events).exists_course hstarted
    have hended : (run start (run start {} events) more).outcome? = some c.outcome :=
      outcome?_run hc (Nat.le_trans hleft.length_le hprogress)
    have hknows : (run start (run start {} events) more).Knows caller :=
      (knows_run {} hasks hstays'.1).run hstays'.2
    have hkeeps := keeps_run start (events ++ more)
    rw [run_append] at hkeeps
    rw [run_append, run_append, run_cons]
    exact mem_answers_run (mem_answers_wake hkeeps hended hknows) rest
  · exact fun gone events => (Alike.refl gone {}).run_filter events

/-- Of two callers that wait one gives up; a third one comes when the computation has ended. -/
example : (run (fun n => .going () (.ended (.ok n))) {}
    [.ask 0, .ask 1, .giveUp 0, .progress, .ask 2, .wake 0, .wake 1]).answers =
      [(2, .ok 1), (1, .ok 1)] := rfl

end Once

namespace SceneDraft

open Markup

variable [Application]

/-- A scene is compiled by putting everything in place and settling it then. -/
theorem compile_result (l : Loader) (c : Cursor) (s : Start) :
    (compile l c s).result = (unsettled l c s).result.bind settle := by
  unfold compile
  rw [Timed.bind_result]
  cases (unsettled l c s).result with
  | error f => rfl
  | ok d =>
      dsimp only
      rw [Timed.bind_result, Timed.lift_result]
      change _ = d.settle
      cases d.settle with
      | error f => rfl
      | ok settled => rfl

/-- The compilation of a scene comes to what compiling it in one go gives. -/
theorem outcome_compilation (l : Loader) (c : Cursor) (turns : Nat) :
    (compilation l c turns).outcome = (compile l c (({} : Start).later 1)).result := by
  rw [compile_result, compilation, Course.outcome_after]
  cases (unsettled l c (({} : Start).later 1)).result with
  | error f => rfl
  | ok d => rfl

/-- The world is settled once, if everything has been put in place. -/
theorem count_settle_compilation (l : Loader) (c : Cursor) (turns : Nat) :
    (compilation l c turns).acts.count .settle =
      if (unsettled l c (({} : Start).later 1)).result.toOption.isSome then 1 else 0 := by
  rw [compilation, Course.acts_after, List.count_append]
  have hprepare : (List.replicate turns Turn.prepare).count .settle = 0 := by
    simp [List.count_replicate]
  rw [hprepare, Nat.zero_add]
  cases (unsettled l c (({} : Start).later 1)).result with
  | error f => rfl
  | ok d => rfl

/-- A cell that many callers share starts its computation at most once, at the first call, and all
who do not give up are told the outcome, whoever gives up. So a scene is compiled once, however
often it is asked for: its world is settled at most once, and once if there is a scene in the
end. -/
theorem settled_once :
    (∀ (ε α : Type) (start : Nat → Course ε α), Once.Shared start) ∧
      ∀ (l : Loader) (c : Cursor) (turns : Nat) (events : List OnceEvent),
        let o := Once.run (fun _ => compilation l c turns) {} events
        o.starts ≤ 1 ∧ o.acts.count .settle ≤ 1 ∧
          (∀ a ∈ o.answers, a.2 = (compile l c (({} : Start).later 1)).result) ∧
          ∀ d, o.outcome? = some (.ok d) → o.acts.count .settle = 1 := by
  refine ⟨fun ε α start => Once.shared start, fun l c turns events => ?_⟩
  intro o
  have hkeeps : Once.Keeps (fun _ => compilation l c turns) o := Once.keeps_run _ events
  have hcount := count_settle_compilation l c turns
  refine ⟨?_, ?_, ?_, ?_⟩
  · have hstarts : o.starts = _ := Once.starts_run _ events
    rw [hstarts]
    split
    · exact Nat.le_refl 1
    · exact Nat.zero_le 1
  · have hle := hkeeps.acts.sublist.count_le Turn.settle
    rw [hcount] at hle
    split at hle
    · exact hle
    · exact Nat.le_trans hle (Nat.zero_le 1)
  · intro a ha
    rw [← outcome_compilation l c turns]
    exact hkeeps.answers a ha
  · intro d hd
    obtain ⟨houtcome, hacts⟩ := hkeeps.ended hd
    rw [hacts, hcount]
    have hcompiled := houtcome.trans (outcome_compilation l c turns)
    rw [compile_result] at hcompiled
    cases hu : (unsettled l c (({} : Start).later 1)).result with
    | error f =>
        rw [hu] at hcompiled
        cases hcompiled
    | ok u => rfl

end SceneDraft

end Stagecraft
