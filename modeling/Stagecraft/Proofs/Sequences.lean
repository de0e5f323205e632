import Stagecraft.Proofs.Attempt
import Stagecraft.Proofs.Restarting

/-!
# The steps of a sequence

A stage is called from outside: hosts are advanced, sequences are started, events fire, handlers are
bound, time passes. Every call leaves the steps that are ahead of a host as its last start makes
them, or as they were if there was none, and takes one step away if it has advanced the host and
come to the end of the step. So a sequence that is started from outside, or by an event, or by a
step that fails later, runs from its first step; one that is started by an advance that comes to its
end has lost its first step.
-/

namespace Stagecraft

namespace Sequencer

/-- A sequencer has started sequences and has then come to the end of `n` steps. -/
structure Moves (q r : Sequencer) (ids : List String) (n : Nat) : Prop where
  registered : ∀ id ∈ ids, q.sequences.has id
  sequences : r.sequences = q.sequences
  starts : r.starts = q.starts ++ ids
  ahead : r.ahead = (ids.foldl start q).ahead.drop n

theorem Restarts.moves {q r : Sequencer} (h : q.Restarts r) : ∃ ids, q.Moves r ids 0 := by
  obtain ⟨ids, hids, rfl⟩ := h
  exact ⟨ids, hids, foldl_start_sequences ids q, foldl_start_starts ids q, rfl⟩

theorem Moves.count {q r : Sequencer} {ids : List String} (h : q.Moves r ids 0) :
    q.Moves r.count ids 1 :=
  ⟨h.registered, h.sequences, h.starts, by rw [ahead_count, h.ahead, List.drop_zero]⟩

theorem Moves.stop {q : Sequencer} (hq : q.ahead = []) : q.Moves q.stop [] 0 :=
  ⟨by simp, rfl, (List.append_nil _).symm, hq.symm⟩

/-- What is ahead when sequences have been started is the last one of them. -/
theorem Moves.ahead_of_last {q r : Sequencer} {ids : List String} {id : String} {n : Nat}
    (h : q.Moves r (ids ++ [id]) n) :
    ∃ steps, q.sequences.get? id = some steps ∧ r.ahead = steps.drop n := by
  have hid : (q.sequences.get? id).isSome :=
    h.registered id (List.mem_append_right ids (List.mem_singleton_self id))
  obtain ⟨steps, hsteps⟩ := Option.isSome_iff_exists.1 hid
  refine ⟨steps, hsteps, ?_⟩
  rw [h.ahead, foldl_start_append_singleton, ahead_start, foldl_start_sequences, hsteps]
  rfl

end Sequencer

namespace Stage

section

/-- What is asked of a stage from outside. What fires events has a number of levels for them. -/
inductive Call where
  | advance (h : Host) (limit : Nat)
  | play (h : Host) (id : String)
  | trigger (h : Host) (event : String) (payload : List Payload) (limit : Nat)
  | emitAudio (h : Host) (id : String) (limit : Nat)
  | bind (h : Host) (event : String) (handler : Handler)
  | simulate (w : Nat) (dt : Float)
  | endScene (n limit : Nat)

variable [Application]

namespace Call

/-- A call, which says whether a step has been run. -/
def run (l : Loader) : Call → Play Bool
  | advance h limit => Stage.advance l limit h
  | play h id => do Stage.play h id; return false
  | trigger h event payload limit => do Stage.fire l limit h event payload; return false
  | emitAudio h id limit => do Stage.emitAudio (Stage.fire l limit) h id; return false
  | bind h event handler => do modify (·.withBus (·.bind event handler) h); return false
  | simulate w dt => do Stage.simulate w dt; return false
  | endScene n limit => do endScheduled l limit n; return false

/-- The stage after a call. -/
def next (l : Loader) (c : Call) (s : Stage) : Stage := after (c.run l) s

/-- The step of a host that a call runs to its end. -/
def ran? (l : Loader) (h : Host) (c : Call) (s : Stage) : Option (List Action) :=
  match c, result (c.run l) s with
  | advance g _, .ok true => if g = h then (s.sequencer h).step? else none
  | _, _ => none

/-- The stage after calls in a row. -/
def nextAll (l : Loader) (cs : List Call) (s : Stage) : Stage :=
  cs.foldl (fun s c => c.next l s) s

/-- The steps of a host that calls in a row run to their ends. -/
def ran (l : Loader) (h : Host) : List Call → Stage → List (List Action)
  | [], _ => []
  | c :: cs, s => (c.ran? l h s).toList ++ ran l h cs (c.next l s)

end Call

section Advance

variable {l : Loader} {limit : Nat} {s : Stage} {h : Host}

/-- An advance says that nothing is left when there is no step ahead. -/
theorem result_advance (l : Loader) (limit : Nat) (s : Stage) (h : Host) :
    result (advance l limit h) s =
      match (s.sequencer h).ahead with
      | [] => .ok false
      | as :: _ => (result (performAll (fire l limit) h as) s).map fun _ => true := by
  unfold advance
  rw [result_get_bind, Sequencer.step?_eq_head?]
  cases hq : (s.sequencer h).ahead with
  | nil => cases (s.sequencer h).active <;> rfl
  | cons as rest =>
      cases ha : (s.sequencer h).active with
      | none => simp [Sequencer.ahead, ha] at hq
      | some id =>
          simp only [List.head?_cons]
          rw [result_bind]
          cases result (performAll (fire l limit) h as) s <;> rfl

theorem result_advance_eq_false_iff :
    result (advance l limit h) s = .ok false ↔ (s.sequencer h).ahead = [] := by
  rw [result_advance]
  cases (s.sequencer h).ahead with
  | nil => simp
  | cons as rest =>
      dsimp only
      rw [Attempt.map_eq_ok_iff]
      simp

/-- With steps ahead, an advance runs the actions of the first one. It is counted when they have
come to their end, on top of what they have started. -/
theorem after_advance_of_cons {as : List Action} {rest : List (List Action)}
    (hq : (s.sequencer h).ahead = as :: rest) :
    after (advance l limit h) s =
      match result (performAll (fire l limit) h as) s with
      | .ok _ => (after (performAll (fire l limit) h as) s).withSequencer Sequencer.count h
      | .error _ => after (performAll (fire l limit) h as) s := by
  unfold advance
  rw [after_get_bind, Sequencer.step?_eq_head?, hq]
  cases ha : (s.sequencer h).active with
  | none => simp [Sequencer.ahead, ha] at hq
  | some id =>
      simp only [List.head?_cons]
      rw [after_bind]
      cases result (performAll (fire l limit) h as) s <;> rfl

theorem after_advance_of_nil (hq : (s.sequencer h).ahead = []) :
    after (advance l limit h) s =
      if (s.sequencer h).active = none then s else s.withSequencer Sequencer.stop h := by
  unfold advance
  rw [after_get_bind, Sequencer.step?_eq_head?, hq]
  cases (s.sequencer h).active <;> rfl

end Advance

section Calls

variable {l : Loader} {limit : Nat} {s : Stage} {h : Host}

theorem next_advance (l : Loader) (limit : Nat) (s : Stage) (h : Host) :
    (Call.advance h limit).next l s = after (advance l limit h) s := rfl

theorem ran?_advance (l : Loader) (limit : Nat) (s : Stage) (h : Host) :
    (Call.advance h limit).ran? l h s =
      match (s.sequencer h).ahead with
      | [] => none
      | as :: _ =>
        match result (performAll (fire l limit) h as) s with
        | .ok _ => some as
        | .error _ => none := by
  have hrun : result ((Call.advance h limit).run l) s = result (advance l limit h) s := rfl
  rw [result_advance] at hrun
  unfold Call.ran?
  rw [hrun, Sequencer.step?_eq_head?]
  cases (s.sequencer h).ahead with
  | nil => rfl
  | cons as rest =>
      cases hp : result (performAll (fire l limit) h as) s with
      | error f => simp [hp, Except.map]
      | ok a => simp [hp, Except.map]

/-- Only an advance of a host runs a step of it. -/
theorem ran?_of_ne {c : Call} (hc : ∀ limit, c ≠ .advance h limit) : c.ran? l h s = none := by
  unfold Call.ran?
  split
  · rename_i g limit _
    rw [if_neg fun hg => hc limit (by rw [hg])]
  · rfl

/-- An advance of one host does nothing to another one but start sequences. -/
theorem restarts_advance_of_ne {g : Host} (hh : s.hosts h) (hg : h ≠ g) :
    (after (advance l limit g) s).hosts h ∧
      (s.sequencer h).Restarts ((after (advance l limit g) s).sequencer h) := by
  cases hq : (s.sequencer g).ahead with
  | nil =>
      rw [after_advance_of_nil hq]
      split
      · exact ⟨hh, .refl _⟩
      · rw [hosts_withSequencer, sequencer_withSequencer_of_ne hg]
        exact ⟨hh, .refl _⟩
  | cons as rest =>
      have hall := restarts_performAll (restarts_fire l limit) g as s h hh
      rw [after_advance_of_cons hq]
      split
      · rw [hosts_withSequencer, sequencer_withSequencer_of_ne hg]
        exact hall
      · exact hall

/-- Calls other than an advance of the host do to its sequencer what starting does. -/
theorem restarts_call {c : Call} (hh : s.hosts h) (hc : ∀ limit, c ≠ .advance h limit) :
    (c.next l s).hosts h ∧ (s.sequencer h).Restarts ((c.next l s).sequencer h) := by
  have hthen (x : Play Unit) (hx : Leads Restarts x) :
      Restarts s (after (do x; return false) s) :=
    hx.bind (fun _ => .pure false) s
  cases c with
  | advance g limit =>
      have hg : h ≠ g := fun hg => hc limit (by rw [hg])
      exact restarts_advance_of_ne hh hg
  | play g id => exact hthen _ (restarts_play g id) h hh
  | trigger g event payload limit => exact hthen _ (restarts_fire l limit g event payload) h hh
  | emitAudio g id limit => exact hthen _ (restarts_emitAudio (restarts_fire l limit) g id) h hh
  | bind g event handler => exact hthen _ (.modify fun s => .withBus s _ g) h hh
  | simulate w dt => exact hthen _ (restarts_simulate w dt) h hh
  | endScene n limit => exact hthen _ (restarts_endScheduled l limit n) h hh

/-- Whatever is called, a host has started sequences and has then come to the end of the step that
it ran, if it ran one to its end. -/
theorem moves_call (hh : s.hosts h) (c : Call) :
    (c.next l s).hosts h ∧
      ∃ ids, (s.sequencer h).Moves ((c.next l s).sequencer h) ids (c.ran? l h s).toList.length := by
  by_cases hc : ∃ limit, c = .advance h limit
  · obtain ⟨limit, rfl⟩ := hc
    rw [ran?_advance, next_advance]
    cases hq : (s.sequencer h).ahead with
    | nil =>
        rw [after_advance_of_nil hq]
        split
        · exact ⟨hh, (Sequencer.Restarts.refl _).moves⟩
        · rw [hosts_withSequencer, sequencer_withSequencer hh]
          exact ⟨hh, [], Sequencer.Moves.stop hq⟩
    | cons as rest =>
        -- The actions have started what they start before the step is counted.
        obtain ⟨hn, hr⟩ := restarts_performAll (restarts_fire l limit) h as s h hh
        obtain ⟨ids, hm⟩ := hr.moves
        rw [after_advance_of_cons hq]
        dsimp only
        cases result (performAll (fire l limit) h as) s with
        | error f => exact ⟨hn, ids, hm⟩
        | ok a =>
            rw [hosts_withSequencer, sequencer_withSequencer hn]
            exact ⟨hn, ids, hm.count⟩
  · obtain ⟨hn, hr⟩ := restarts_call (l := l) hh (not_exists.1 hc)
    rw [ran?_of_ne (not_exists.1 hc)]
    exact ⟨hn, hr.moves⟩

/-- A step that a call runs is the first one that was ahead. -/
theorem head?_of_ran? {c : Call} {as : List Action} (h' : c.ran? l h s = some as) :
    (s.sequencer h).ahead.head? = some as := by
  by_cases hc : ∃ limit, c = .advance h limit
  · obtain ⟨limit, rfl⟩ := hc
    rw [ran?_advance] at h'
    cases hq : (s.sequencer h).ahead with
    | nil => simp [hq] at h'
    | cons bs rest =>
        rw [hq] at h'
        dsimp only at h'
        split at h'
        · exact h'
        · cases h'
  · rw [ran?_of_ne (not_exists.1 hc)] at h'
    cases h'

/-- Without a start, what was ahead is the step that the call has run and what is ahead now. -/
theorem ahead_call {c : Call} (hh : s.hosts h)
    (hstarts : ((c.next l s).sequencer h).starts = (s.sequencer h).starts) :
    (s.sequencer h).ahead = (c.ran? l h s).toList ++ ((c.next l s).sequencer h).ahead := by
  obtain ⟨-, ids, hm⟩ := moves_call (l := l) hh c
  have hids : ids = [] := by
    have h' := hm.starts
    rw [hstarts] at h'
    exact List.self_eq_append_right.1 h'
  subst hids
  rw [hm.ahead]
  cases hr : c.ran? l h s with
  | none => rfl
  | some as =>
      obtain ⟨rest, hrest⟩ := List.head?_eq_some_iff.1 (head?_of_ran? hr)
      simp [hrest]

theorem starts_le_of_calls (hh : s.hosts h) (cs : List Call) :
    ∃ ids, ((Call.nextAll l cs s).sequencer h).starts = (s.sequencer h).starts ++ ids := by
  induction cs generalizing s with
  | nil => exact ⟨[], (List.append_nil _).symm⟩
  | cons c cs ih =>
      obtain ⟨hn, ids, hm⟩ := moves_call (l := l) hh c
      obtain ⟨more, hmore⟩ := ih hn
      refine ⟨ids ++ more, ?_⟩
      rw [← List.append_assoc, ← hm.starts]
      exact hmore

/-- While nothing is started, the steps that are run are those that were ahead, in their order and
each of them once. -/
theorem ahead_calls (hh : s.hosts h) (cs : List Call)
    (hstarts : ((Call.nextAll l cs s).sequencer h).starts = (s.sequencer h).starts) :
    (s.sequencer h).ahead = Call.ran l h cs s ++ ((Call.nextAll l cs s).sequencer h).ahead := by
  induction cs generalizing s with
  | nil => rfl
  | cons c cs ih =>
      obtain ⟨hn, ids, hm⟩ := moves_call (l := l) hh c
      obtain ⟨more, hmore⟩ := starts_le_of_calls (l := l) hn cs
      -- Starts are only ever added: if none has been at the end, none has been on the way.
      have hall : (s.sequencer h).starts = (s.sequencer h).starts ++ (ids ++ more) := by
        rw [← List.append_assoc, ← hm.starts, ← hmore]
        exact hstarts.symm
      obtain ⟨rfl, rfl⟩ := List.append_eq_nil_iff.1 (List.self_eq_append_right.1 hall)
      rw [List.append_nil] at hmore
      have hc : ((c.next l s).sequencer h).starts = (s.sequencer h).starts := by
        rw [hm.starts, List.append_nil]
      rw [ahead_call hh hc, ih hn hmore]
      exact (List.append_assoc _ _ _).symm

/-- A sequence that a call has started last has all of its steps ahead, but for the first one if
the call is an advance of the host that comes to its end. Until something is started again, the
calls that follow run these steps in their order and each of them once, up to one at which an
advance says that nothing is left. -/
theorem steps_of_started (hh : s.hosts h) (c : Call) (ids : List String) (id : String)
    (hstart : ((c.next l s).sequencer h).starts = (s.sequencer h).starts ++ (ids ++ [id]))
    (cs : List Call)
    (hrest : ((Call.nextAll l cs (c.next l s)).sequencer h).starts =
      ((c.next l s).sequencer h).starts) :
    ∃ steps, (s.sequencer h).sequences.get? id = some steps ∧
      let later := Call.ran l h cs (c.next l s)
      let left := ((Call.nextAll l cs (c.next l s)).sequencer h).ahead
      later ++ left = steps.drop (c.ran? l h s).toList.length ∧
      (later ++ left = steps ↔ steps = [] ∨ c.ran? l h s = none) ∧
      ∀ limit, result (advance l limit h) (Call.nextAll l cs (c.next l s)) = .ok false ↔
        left = [] := by
  obtain ⟨hn, ids', hm⟩ := moves_call (l := l) hh c
  have hids : ids' = ids ++ [id] := List.append_cancel_left (hm.starts.symm.trans hstart)
  subst hids
  obtain ⟨steps, hsteps, hahead⟩ := hm.ahead_of_last
  refine ⟨steps, hsteps, ?_⟩
  dsimp only
  rw [← ahead_calls hn cs hrest, hahead]
  refine ⟨rfl, ?_, fun limit => ?_⟩
  · cases c.ran? l h s with
    | none => simp
    | some as => cases steps <;> simp
  · exact result_advance_eq_false_iff

end Calls

end

/-- An entity with a sequence of one step, which starts one of two steps. -/
def relay : Stage :=
  { entities := [{ sequencer :=
      [⟨"a", [[.play "b"]]⟩, ⟨"b", [[.emit "x"], [.emit "y"]]⟩].foldl Sequencer.register {} }] }

open Bare in
theorem steps_of_started_relay :
    let s := (Call.play (.entity 0) "a").next {} relay
    let c := Call.advance (.entity 0) 2
    ∃ steps, (s.sequencer (.entity 0)).sequences.get? "b" = some steps ∧
      Call.ran {} (.entity 0) [c] (c.next {} s) ++
        ((Call.nextAll {} [c] (c.next {} s)).sequencer (.entity 0)).ahead =
          steps.drop (c.ran? {} (.entity 0) s).toList.length := by
  obtain ⟨steps, hsteps, hrun, -⟩ := steps_of_started (l := {})
    (s := (Call.play (.entity 0) "a").next {} relay) (h := .entity 0) (by decide)
    (.advance (.entity 0) 2) [] "b" (by decide) [.advance (.entity 0) 2] (by decide)
  exact ⟨steps, hsteps, hrun⟩

open Bare in
theorem first_step_skipped :
    ¬ ∀ (l : Loader) (s : Stage) (h : Host) (c : Call) (ids : List String) (id : String)
        (steps : List (List Action)), s.hosts h → (s.sequencer h).sequences.get? id = some steps →
        ((c.next l s).sequencer h).starts = (s.sequencer h).starts ++ (ids ++ [id]) →
        ∀ cs, ((Call.nextAll l cs (c.next l s)).sequencer h).starts =
            ((c.next l s).sequencer h).starts →
          Call.ran l h cs (c.next l s) ++ ((Call.nextAll l cs (c.next l s)).sequencer h).ahead =
            steps := by
  intro hall
  have h := hall {} ((Call.play (.entity 0) "a").next {} relay) (.entity 0)
    (.advance (.entity 0) 2) [] "b" [[.emit "x"], [.emit "y"]] (by decide) (by decide) (by decide)
    [.advance (.entity 0) 2] (by decide)
  revert h
  decide

end Stage

end Stagecraft
