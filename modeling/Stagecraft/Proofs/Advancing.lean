import Mathlib.Logic.Relation
import Stagecraft.Proofs.Casting
import Stagecraft.Proofs.Catalogs

/-!
# What sequencers keep to

Three calls change a sequencer: a sequence is registered, maybe in the place of the one that plays,
a sequence is started, and the one that plays is advanced. They come from outside and, nested, from
the actions of the very step that an advance runs, and any of them may fail half way. What plays is
registered all the same, so that an advance always finds the steps of it; and when an advance has
found nothing left, advances go on finding nothing until a sequence is started.

What actions do is left open here. They may be anything that uses the sequencer by its calls, and so
may whatever goes on between two calls. The invariant is carried by `Touches`, which has a
constructor for each thing that a call does to a sequencer, whatever other calls are under way.
-/

namespace Stagecraft

open Relation

namespace Sequencer

variable {q r : Sequencer} {id : String} {as : List Action}

/-- What plays is registered. -/
def Registered (q : Sequencer) : Prop := ∀ id, q.active = some id → q.sequences.has id

/-- Nothing plays, or what plays has no step left. -/
def Spent (q : Sequencer) : Prop :=
  q.active = none ∨ ∃ id steps, q.active = some id ∧ q.sequences.get? id = some steps ∧
    steps.length ≤ q.next

/-- What calls do to a sequencer. An advance stops it or, once the actions of a step have run,
counts that step, whatever the actions have made of the sequencer. -/
inductive Touches : Sequencer → Sequencer → Prop
  | registers (q : Sequencer) (d : SequenceDef) : Touches q (q.register d)
  | plays {q r : Sequencer} {id : String} (h : q.play? id = some r) : Touches q r
  | stops (q : Sequencer) : Touches q q.stop
  | counts (q : Sequencer) : Touches q q.count

theorem play?_eq_some_iff : q.play? id = some r ↔ q.sequences.has id ∧ r = q.start id := by
  unfold play?
  split
  · rename_i hhas
    simp [hhas, eq_comm]
  · rename_i hhas
    simp [hhas]

theorem step?_eq_some_iff :
    q.step? = some as ↔ ∃ id steps, q.active = some id ∧ q.sequences.get? id = some steps ∧
      steps[q.next]? = some as := by
  simp [step?, Option.bind_eq_some_iff]

/-- Where what plays is registered, there is a step to run unless nothing is left. -/
theorem Registered.spent_or_step (hq : q.Registered) : q.Spent ∨ ∃ as, q.step? = some as := by
  cases hactive : q.active with
  | none => exact .inl (.inl hactive)
  | some id =>
      obtain ⟨steps, hsteps⟩ := Option.isSome_iff_exists.1 (hq id hactive)
      cases hstep : steps[q.next]? with
      | none =>
          exact .inl (.inr ⟨id, steps, hactive, hsteps, List.getElem?_eq_none_iff.1 hstep⟩)
      | some as => exact .inr ⟨as, step?_eq_some_iff.2 ⟨id, steps, hactive, hsteps, hstep⟩⟩

theorem Registered.touch (hq : q.Registered) (h : Touches q r) : r.Registered := by
  cases h with
  | registers d =>
      intro id hid
      have hhas := Catalog.has_iff_mem_keys.1 (hq id hid)
      exact Catalog.has_iff_mem_keys.2 (Catalog.mem_keys_put.2 (.inl hhas))
  | plays h =>
      obtain ⟨hhas, rfl⟩ := play?_eq_some_iff.1 h
      intro id hid
      cases hid
      exact hhas
  | stops =>
      intro id hid
      cases hid
  | counts => exact hq

theorem Registered.reaches (hq : q.Registered) (h : ReflTransGen Touches q r) : r.Registered := by
  induction h with
  | refl => exact hq
  | tail _ htouch ih => exact ih.touch htouch

/-- A sequencer has remembered all starts, and if it did not play and nothing has been started, it
does not play now. -/
structure Awaits (q r : Sequencer) : Prop where
  starts : q.starts <+: r.starts
  idle : q.active = none → r.starts = q.starts → r.active = none

theorem Awaits.refl (q : Sequencer) : q.Awaits q := ⟨List.prefix_rfl, fun hq _ => hq⟩

theorem Awaits.trans {t : Sequencer} (hqr : q.Awaits r) (hrt : r.Awaits t) : q.Awaits t := by
  refine ⟨hqr.starts.trans hrt.starts, fun hq hstarts => ?_⟩
  -- Starts are only ever added: if none has been at the end, none has been on the way.
  have hmid : q.starts = r.starts :=
    hqr.starts.eq_of_length_le (by rw [← hstarts]; exact hrt.starts.length_le)
  exact hrt.idle (hqr.idle hq hmid.symm) (hstarts.trans hmid)

/-- Only a start makes a sequencer play. -/
theorem Touches.awaits (h : Touches q r) : q.Awaits r := by
  cases h with
  | registers d => exact ⟨List.prefix_rfl, fun hq _ => hq⟩
  | plays h =>
      obtain ⟨-, rfl⟩ := play?_eq_some_iff.1 h
      exact ⟨List.prefix_append _ _, fun _ hstarts => by simp [start] at hstarts⟩
  | stops => exact ⟨List.prefix_rfl, fun _ _ => rfl⟩
  | counts => exact ⟨List.prefix_rfl, fun hq _ => hq⟩

theorem awaits_of_reaches (h : ReflTransGen Touches q r) : q.Awaits r := by
  induction h with
  | refl => exact .refl q
  | tail _ htouch ih => exact ih.trans htouch.awaits

theorem Restarts.reaches (h : q.Restarts r) : ReflTransGen Touches q r := by
  obtain ⟨ids, hids, rfl⟩ := h
  induction ids generalizing q with
  | nil => exact .refl
  | cons id ids ih =>
      have hhas : q.sequences.has id := hids id List.mem_cons_self
      exact .head (.plays (play?_eq_some_iff.2 ⟨hhas, rfl⟩))
        (ih fun id hid => hids id (List.mem_cons_of_mem _ hid))

end Sequencer

namespace Stage

open Sequencer (Touches)

/-- The host stays, and its sequencer is used by its calls only. -/
def Reaches (h : Host) (s t : Stage) : Prop :=
  s.hosts h → t.hosts h ∧ ReflTransGen Touches (s.sequencer h) (t.sequencer h)

instance (h : Host) : IsPreorder Stage (Reaches h) where
  refl _ hh := ⟨hh, .refl⟩
  trans _ _ _ hst htu hh :=
    have ⟨ht, hq⟩ := hst hh
    have ⟨hu, hr⟩ := htu ht
    ⟨hu, hq.trans hr⟩

/-- An advance of a host whose actions do what `act` says. The steps of what plays are looked up,
which fails if it is not registered. -/
def advanceBy (act : Action → Play Unit) (h : Host) : Play Bool := do
  let s ← get
  match (s.sequencer h).active with
  | none => return false
  | some id =>
    match (s.sequencer h).sequences.get? id with
    | none => throw (.sequenceUnregistered id)
    | some steps =>
      match steps[(s.sequencer h).next]? with
      | none =>
        set (s.withSequencer Sequencer.stop h)
        return false
      | some as =>
        as.forM act
        modify (·.withSequencer Sequencer.count h)
        return true

variable {h : Host} {s t : Stage} {act : Action → Play Unit} {l : Loader} {id : String}
  {as : List Action}

section Reaches

theorem Restarts.reaches (hst : s.Restarts t) : Reaches h s t := fun hh =>
  have ⟨ht, hq⟩ := hst h hh
  ⟨ht, hq.reaches⟩

theorem reaches_withSequencer {f : Sequencer → Sequencer} (hf : ∀ q, Touches q (f q)) :
    Leads (Reaches h) (modify (·.withSequencer f h) : Play Unit) := fun _ hh =>
  ⟨hosts_withSequencer.2 hh, by
    rw [after_modify, sequencer_withSequencer hh]
    exact .single (hf _)⟩

/-- An advance uses the sequencer by calls if its actions do, so that they may advance it again. -/
theorem reaches_advanceBy (hact : ∀ a, Leads (Reaches h) (act a)) :
    Leads (Reaches h) (advanceBy act h) := by
  refine .get_bind fun s => ?_
  split
  · exact refl_of (Reaches h) s
  split
  · exact refl_of (Reaches h) s
  split
  · exact reaches_withSequencer .stops s
  · exact (Leads.forM fun a _ => hact a).bind
      (fun _ => (reaches_withSequencer .counts).bind fun _ => .pure true) s

end Reaches

section Advance

theorem run_get_bind {α : Type} (g : Stage → Play α) (s : Stage) :
    (get >>= g).run.run s = (g s).run.run s := rfl

theorem withSequencer_eq_self {f : Sequencer → Sequencer} (hh : s.hosts h)
    (hf : f (s.sequencer h) = s.sequencer h) : s.withSequencer f h = s := by
  cases h with
  | entity n =>
      have hn : n < s.entities.length := hh
      have hentity : { s.entity n with sequencer := f (s.entity n).sequencer } = s.entities[n] := by
        rw [show f (s.entity n).sequencer = (s.entity n).sequencer from hf]
        simp [entity, hn]
      simp [withSequencer, setEntity, hentity]
  | scene n =>
      have hn : n < s.scenes.length := hh
      have hscene : { s.scene n with sequencer := f (s.scene n).sequencer } = s.scenes[n] := by
        rw [show f (s.scene n).sequencer = (s.scene n).sequencer from hf]
        simp [scene, hn]
      simp [withSequencer, hscene]

theorem advanceBy_of_idle (hactive : (s.sequencer h).active = none) (act : Action → Play Unit) :
    (advanceBy act h).run.run s = (.ok false, s) := by
  unfold advanceBy
  rw [run_get_bind]
  simp only [hactive]
  rfl

/-- With nothing left no action is run, whatever actions do. -/
theorem advanceBy_of_spent (hh : s.hosts h) (hq : (s.sequencer h).Spent)
    (act : Action → Play Unit) :
    (advanceBy act h).run.run s = (.ok false, s.withSequencer Sequencer.stop h) := by
  obtain hactive | ⟨id, steps, hactive, hsteps, hnext⟩ := hq
  · have hstop : (s.sequencer h).stop = s.sequencer h := by rw [Sequencer.stop, ← hactive]
    rw [advanceBy_of_idle hactive, withSequencer_eq_self hh hstop]
  · have hnone : steps[(s.sequencer h).next]? = none := List.getElem?_eq_none_iff.2 hnext
    unfold advanceBy
    rw [run_get_bind]
    simp only [hactive, hsteps, hnone]
    rfl

/-- With a step to run, an advance is true when its actions have come to their end. -/
theorem result_advanceBy_of_step (hq : (s.sequencer h).step? = some as)
    (act : Action → Play Unit) :
    result (advanceBy act h) s = (result (as.forM act) s).map fun _ => true := by
  obtain ⟨id, steps, hactive, hsteps, hstep⟩ := Sequencer.step?_eq_some_iff.1 hq
  unfold advanceBy
  rw [result_get_bind]
  simp only [hactive, hsteps, hstep]
  rw [result_bind]
  cases result (as.forM act) s <;> rfl

theorem advanceBy_eq_error_iff (hh : s.hosts h) (hq : (s.sequencer h).Registered) (f : Fault) :
    result (advanceBy act h) s = .error f ↔
      ∃ as, (s.sequencer h).step? = some as ∧ result (as.forM act) s = .error f := by
  constructor
  · intro hf
    obtain hspent | ⟨as, has⟩ := hq.spent_or_step
    · cases (congrArg Prod.fst (advanceBy_of_spent hh hspent act)).symm.trans hf
    · rw [result_advanceBy_of_step has, Attempt.map_eq_error_iff] at hf
      exact ⟨as, has, hf⟩
  · rintro ⟨as, has, hf⟩
    rw [result_advanceBy_of_step has, hf]
    rfl

theorem advanceBy_eq_false_iff (hh : s.hosts h) (hq : (s.sequencer h).Registered) :
    result (advanceBy act h) s = .ok false ↔ (s.sequencer h).Spent := by
  refine ⟨fun hfalse => ?_, fun hspent => congrArg Prod.fst (advanceBy_of_spent hh hspent act)⟩
  refine hq.spent_or_step.resolve_right fun ⟨as, has⟩ => ?_
  rw [result_advanceBy_of_step has, Attempt.map_eq_ok_iff] at hfalse
  obtain ⟨-, -, htrue⟩ := hfalse
  cases htrue

theorem play_of_has (hid : (s.sequencer h).sequences.has id) :
    (play h id).run.run s = (.ok (), s.withSequencer (·.start id) h) :=
  Prod.ext (ends_play hid).1 (ends_play hid).2

theorem play_of_not_has (hid : (s.sequencer h).sequences.has id = false) :
    (play h id).run.run s = (.error (.sequenceUnregistered id), s) := by
  unfold play
  rw [run_get_bind, (Sequencer.play?_eq_none_iff _ id).2 hid]
  rfl

end Advance

/-- What is asked of the sequencer of a host, or goes on around it. What the actions of a step have
done before it comes to its end is among the latter. -/
inductive Request (h : Host) where
  | register (d : SequenceDef)
  | play (id : String)
  | advance
  | other (x : Play Unit) (hx : Leads (Reaches h) x)

namespace Request

def run (act : Action → Play Unit) : Request h → Play Unit
  | register d => modify (·.withSequencer (·.register d) h)
  | play id => Stage.play h id
  | advance => do
    let _ ← advanceBy act h
    return ()
  | other x _ => x

/-- The stage after requests in a row. One that fails does not keep the next one from being made. -/
def nextAll (act : Action → Play Unit) (rs : List (Request h)) (s : Stage) : Stage :=
  rs.foldl (fun s r => after (r.run act) s) s

theorem reaches_run (hact : ∀ a, Leads (Reaches h) (act a)) (r : Request h) :
    Leads (Reaches h) (r.run act) := by
  cases r with
  | register d => exact reaches_withSequencer (Touches.registers · d)
  | play id => exact fun s => (restarts_play h id s).reaches
  | advance => exact (reaches_advanceBy hact).bind fun _ => .pure ()
  | other x hx => exact hx

theorem reaches_nextAll (hact : ∀ a, Leads (Reaches h) (act a)) (rs : List (Request h))
    (s : Stage) : Reaches h s (nextAll act rs s) := by
  induction rs generalizing s with
  | nil => exact refl_of (Reaches h) s
  | cons r rs ih => exact trans_of (Reaches h) (reaches_run hact r s) (ih _)

/-- A sequencer that has been stopped does not play before something is started. -/
theorem active_of_stop (hact : ∀ a, Leads (Reaches h) (act a)) (hh : s.hosts h)
    (rs : List (Request h))
    (hstarts : ((nextAll act rs (s.withSequencer Sequencer.stop h)).sequencer h).starts =
      (s.sequencer h).starts) :
    ((nextAll act rs (s.withSequencer Sequencer.stop h)).sequencer h).active = none := by
  obtain ⟨-, hreach⟩ := reaches_nextAll hact rs _ (hosts_withSequencer.2 hh)
  rw [sequencer_withSequencer hh] at hreach
  exact (Sequencer.awaits_of_reaches hreach).idle rfl hstarts

end Request

section Steady

variable [Application]

/-- What the actions of documents do, they do by calls. -/
theorem reaches_perform (l : Loader) (limit : Nat) (h : Host) (a : Action) :
    Leads (Reaches h) (perform (fire l limit) h a) := fun s =>
  (restarts_perform (restarts_fire l limit) h a s).reaches

/-- An advance need not look whether what plays is registered. -/
theorem advance_eq_advanceBy (hq : (s.sequencer h).Registered) (l : Loader) (limit : Nat) :
    (advance l limit h).run.run s = (advanceBy (perform (fire l limit) h) h).run.run s := by
  unfold advance advanceBy Sequencer.step?
  rw [run_get_bind, run_get_bind]
  cases hactive : (s.sequencer h).active with
  | none => rfl
  | some id =>
      obtain ⟨steps, hsteps⟩ := Option.isSome_iff_exists.1 (hq id hactive)
      simp only [hsteps, Option.bind_eq_bind, Option.bind_some]
      cases steps[(s.sequencer h).next]? <;> rfl

/-- What a sequencer keeps to. What plays is registered, so that looking it up never fails: an
advance fails just if an action of its step does, and `advance`, which takes the registration for
granted, comes to the same. A sequence that is not registered cannot be started, and nothing
changes. An advance is false just if nothing is left; then no action is run, whatever actions do,
and advances stay false until a sequence is started. -/
structure Steady (act : Action → Play Unit) (h : Host) (t : Stage) : Prop where
  registered : (t.sequencer h).Registered
  unchecked (l : Loader) (limit : Nat) :
    (advance l limit h).run.run t = (advanceBy (perform (fire l limit) h) h).run.run t
  fails (f : Fault) : result (advanceBy act h) t = .error f ↔
    ∃ as, (t.sequencer h).step? = some as ∧ result (as.forM act) t = .error f
  plays (id : String) : (t.sequencer h).sequences.has id →
    (play h id).run.run t = (.ok (), t.withSequencer (·.start id) h)
  refuses (id : String) : (t.sequencer h).sequences.has id = false →
    (play h id).run.run t = (.error (.sequenceUnregistered id), t)
  spent : result (advanceBy act h) t = .ok false ↔ (t.sequencer h).Spent
  stops : (t.sequencer h).Spent → ∀ other : Action → Play Unit,
    (advanceBy other h).run.run t = (.ok false, t.withSequencer Sequencer.stop h)
  rests : result (advanceBy act h) t = .ok false → ∀ rs : List (Request h),
    let u := Request.nextAll act rs (after (advanceBy act h) t)
    (u.sequencer h).starts = (t.sequencer h).starts →
      (u.sequencer h).active = none ∧ (advanceBy act h).run.run u = (.ok false, u)

theorem Steady.of_registered (hact : ∀ a, Leads (Reaches h) (act a)) (hh : t.hosts h)
    (hq : (t.sequencer h).Registered) : Steady act h t where
  registered := hq
  unchecked := advance_eq_advanceBy hq
  fails := advanceBy_eq_error_iff hh hq
  plays _ := play_of_has
  refuses _ := play_of_not_has
  spent := advanceBy_eq_false_iff hh hq
  stops := advanceBy_of_spent hh
  rests hfalse rs := by
    intro u hstarts
    have hspent := (advanceBy_eq_false_iff hh hq).1 hfalse
    have hstop : after (advanceBy act h) t = t.withSequencer Sequencer.stop h :=
      congrArg Prod.snd (advanceBy_of_spent hh hspent act)
    have hactive : (u.sequencer h).active = none := by
      simp only [u, hstop] at hstarts ⊢
      exact Request.active_of_stop hact hh rs hstarts
    exact ⟨hactive, advanceBy_of_idle hactive act⟩

/-- A sequencer that plays nothing at first keeps to this, whatever is asked of it and in whatever
order, from outside and by the actions of its own steps. -/
theorem steady_of_requests (hact : ∀ a, Leads (Reaches h) (act a)) (hh : s.hosts h)
    (hidle : (s.sequencer h).active = none) (rs : List (Request h)) :
    Steady act h (Request.nextAll act rs s) := by
  obtain ⟨ht, hreach⟩ := Request.reaches_nextAll hact rs s hh
  have hregistered : (s.sequencer h).Registered := fun id hid => by cases hidle.symm.trans hid
  exact .of_registered hact ht (hregistered.reaches hreach)

end Steady

/-- What actions do where an event cuts the sequence "a" down to one step. -/
def cutting [Application] (h : Host) : Action → Play Unit
  | .emit _ => modify (·.withSequencer (·.register ⟨"a", [[.play "b"]]⟩) h)
  | a => perform (fire {} 9) h a

/-- The sequence "a" is registered with two steps and started, and its first step is run. -/
def opening (h : Host) : List (Request h) :=
  [.register ⟨"a", [[.emit "x"], [.emit "y"]]⟩, .play "a", .advance]

open Bare in
theorem steady_of_requests_cutting :
    let h : Host := .entity 0
    let s : Stage := { entities := [{}] }
    let t := Request.nextAll (cutting h) (opening h) s
    (∀ a, Leads (Reaches h) (cutting h a)) ∧ s.hosts h ∧ (s.sequencer h).active = none ∧
      Steady (cutting h) h t ∧ (t.sequencer h).active = some "a" ∧ (t.sequencer h).next = 1 ∧
      (play h "b").run.run t = (.error (.sequenceUnregistered "b"), t) ∧
      (advance {} 9 h).run.run t = (.ok false, t.withSequencer Sequencer.stop h) := by
  intro h s t
  have hact : ∀ a, Leads (Reaches h) (cutting h a) := fun a =>
    match a with
    | .emit _ => reaches_withSequencer (Touches.registers · _)
    | .emitAudio id => reaches_perform {} 9 h (.emitAudio id)
    | .play id => reaches_perform {} 9 h (.play id)
  have hsteady : Steady (cutting h) h t := steady_of_requests hact (by decide) rfl (opening h)
  have hspent : (t.sequencer h).Spent :=
    .inr ⟨"a", [[.play "b"]], by decide, by decide, by decide⟩
  refine ⟨hact, by decide, rfl, hsteady, by decide, by decide, hsteady.refuses "b" (by decide), ?_⟩
  rw [hsteady.unchecked]
  exact hsteady.stops hspent _

end Stage

end Stagecraft
