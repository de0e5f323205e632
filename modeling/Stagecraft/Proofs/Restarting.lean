import Stagecraft.Proofs.Playing

/-!
# What starts sequences

While a step runs, its actions may start sequences, also the one that the step belongs to. Whatever
runs on a stage, its sequencers go on in one way only: by starting registered sequences. This is
shown along the nesting of events, and it is what an advance counts its step on top of.
-/

namespace Stagecraft

namespace Sequencer

/-- The steps that are still to come in the sequence that plays. -/
def ahead (q : Sequencer) : List (List Action) :=
  match q.active with
  | none => []
  | some id => ((q.sequences.get? id).getD []).drop q.next

/-- A sequencer goes on by starting registered sequences, and by nothing else. -/
def Restarts (q r : Sequencer) : Prop :=
  ∃ ids : List String, (∀ id ∈ ids, q.sequences.has id) ∧ r = ids.foldl start q

theorem foldl_start_sequences (ids : List String) (q : Sequencer) :
    (ids.foldl start q).sequences = q.sequences := by
  induction ids generalizing q with
  | nil => rfl
  | cons id ids ih => exact ih (q.start id)

theorem foldl_start_starts (ids : List String) (q : Sequencer) :
    (ids.foldl start q).starts = q.starts ++ ids := by
  induction ids generalizing q with
  | nil => simp
  | cons id ids ih =>
      rw [List.foldl_cons, ih]
      simp [start]

theorem foldl_start_append_singleton (ids : List String) (id : String) (q : Sequencer) :
    (ids ++ [id]).foldl start q = (ids.foldl start q).start id := by
  rw [List.foldl_append]
  rfl

namespace Restarts

theorem refl (q : Sequencer) : Restarts q q := ⟨[], by simp, rfl⟩

theorem trans {q r t : Sequencer} (hqr : Restarts q r) (hrt : Restarts r t) : Restarts q t := by
  obtain ⟨ids, hids, rfl⟩ := hqr
  obtain ⟨more, hmore, rfl⟩ := hrt
  refine ⟨ids ++ more, ?_, List.foldl_append.symm⟩
  intro id hid
  rcases List.mem_append.1 hid with hid | hid
  · exact hids id hid
  · have h := hmore id hid
    rwa [foldl_start_sequences] at h

theorem of_play? {q r : Sequencer} {id : String} (h : q.play? id = some r) : Restarts q r := by
  unfold play? at h
  split at h
  · rename_i hid
    cases h
    exact ⟨[id], by simpa using hid, rfl⟩
  · cases h

end Restarts

theorem ahead_start (q : Sequencer) (id : String) :
    (q.start id).ahead = (q.sequences.get? id).getD [] := rfl

theorem ahead_count (q : Sequencer) : q.count.ahead = q.ahead.drop 1 := by
  unfold ahead count
  cases q.active with
  | none => rfl
  | some id => exact List.drop_drop.symm

theorem step?_eq_head? (q : Sequencer) : q.step? = q.ahead.head? := by
  unfold step? ahead
  cases q.active with
  | none => rfl
  | some id => cases h : q.sequences.get? id <;> simp [h, List.head?_drop]

end Sequencer

namespace Stage

/-- Is there a host with this number? -/
def hosts (s : Stage) : Host → Prop
  | .entity n => n < s.entities.length
  | .scene n => n < s.scenes.length

instance (s : Stage) (h : Host) : Decidable (s.hosts h) :=
  match h with
  | .entity n => inferInstanceAs (Decidable (n < s.entities.length))
  | .scene n => inferInstanceAs (Decidable (n < s.scenes.length))

/-- All hosts stay, and their sequencers go on by starting sequences. -/
def Restarts (s t : Stage) : Prop :=
  ∀ h, s.hosts h → t.hosts h ∧ (s.sequencer h).Restarts (t.sequencer h)

instance : IsPreorder Stage Restarts where
  refl _ _ hh := ⟨hh, .refl _⟩
  trans _ _ _ hst htu h hh :=
    have ⟨ht, hq⟩ := hst h hh
    have ⟨hu, hr⟩ := htu h ht
    ⟨hu, hq.trans hr⟩

theorem entity_setEntity {s : Stage} {n m : Nat} {e : Entity} (hm : m < s.entities.length) :
    (s.setEntity n e).entity m = if n = m then e else s.entity m := by
  unfold entity setEntity
  rw [List.getElem?_set]
  split
  · subst m
    simp [hm]
  · rfl

theorem hosts_withSequencer {s : Stage} {f : Sequencer → Sequencer} {g h : Host} :
    (s.withSequencer f h).hosts g ↔ s.hosts g := by
  cases h <;> cases g <;> simp [hosts, withSequencer, setEntity]

theorem sequencer_withSequencer {s : Stage} {f : Sequencer → Sequencer} {h : Host}
    (hh : s.hosts h) : (s.withSequencer f h).sequencer h = f (s.sequencer h) := by
  cases h with
  | entity n =>
      have hn : n < s.entities.length := hh
      simp [sequencer, entity, withSequencer, setEntity, hn]
  | scene n =>
      have hn : n < s.scenes.length := hh
      simp [sequencer, scene, withSequencer, hn]

theorem sequencer_withSequencer_of_ne {s : Stage} {f : Sequencer → Sequencer} {g h : Host}
    (hgh : g ≠ h) : (s.withSequencer f h).sequencer g = s.sequencer g := by
  cases h with
  | entity n =>
      cases g with
      | entity m =>
          have hnm : n ≠ m := fun h => hgh (h ▸ rfl)
          simp [sequencer, entity, withSequencer, setEntity, List.getElem?_set_ne hnm]
      | scene m => rfl
  | scene n =>
      cases g with
      | entity m => rfl
      | scene m =>
          have hnm : n ≠ m := fun h => hgh (h ▸ rfl)
          simp [sequencer, scene, withSequencer, List.getElem?_set_ne hnm]

namespace Restarts

/-- New hosts come after those that are there. -/
theorem of_append {s t : Stage} {es : List Entity} {cs : List Scene}
    (he : t.entities = s.entities ++ es) (hc : t.scenes = s.scenes ++ cs) : Restarts s t := by
  intro h hh
  cases h with
  | entity n =>
      have hn : n < s.entities.length := hh
      refine ⟨?_, ?_⟩
      · simp only [hosts, he, List.length_append]
        omega
      · simp only [sequencer, entity, he, List.getElem?_append_left hn]
        exact .refl _
  | scene n =>
      have hn : n < s.scenes.length := hh
      refine ⟨?_, ?_⟩
      · simp only [hosts, hc, List.length_append]
        omega
      · simp only [sequencer, scene, hc, List.getElem?_append_left hn]
        exact .refl _

theorem of_eq {s t : Stage} (he : t.entities = s.entities) (hc : t.scenes = s.scenes) :
    Restarts s t :=
  of_append (by rw [he, List.append_nil]) (by rw [hc, List.append_nil])

theorem setEntity {s : Stage} {n : Nat} {e : Entity}
    (h : (s.entity n).sequencer.Restarts e.sequencer) : Restarts s (s.setEntity n e) := by
  intro g hg
  cases g with
  | entity m =>
      refine ⟨by simpa [hosts, Stage.setEntity] using hg, ?_⟩
      rw [sequencer, sequencer, entity_setEntity hg]
      split
      · subst m
        exact h
      · exact .refl _
  | scene m => exact ⟨hg, .refl _⟩

theorem withSequencer {s : Stage} {f : Sequencer → Sequencer} {h : Host}
    (hf : (s.sequencer h).Restarts (f (s.sequencer h))) : Restarts s (s.withSequencer f h) := by
  intro g hg
  refine ⟨hosts_withSequencer.2 hg, ?_⟩
  by_cases hgh : g = h
  · subst hgh
    rw [sequencer_withSequencer hg]
    exact hf
  · rw [sequencer_withSequencer_of_ne hgh]
    exact .refl _

theorem withBus (s : Stage) (f : Bus Handler → Bus Handler) (h : Host) :
    Restarts s (s.withBus f h) := by
  cases h with
  | entity n => exact setEntity (.refl _)
  | scene n =>
      intro g hg
      cases g with
      | entity m => exact ⟨hg, .refl _⟩
      | scene m =>
          refine ⟨by simpa [hosts, Stage.withBus] using hg, ?_⟩
          have hm : m < s.scenes.length := hg
          have hseq : (s.withBus f (.scene n)).sequencer (.scene m) = s.sequencer (.scene m) := by
            simp only [sequencer, scene, Stage.withBus, List.getElem?_set]
            by_cases hnm : n = m
            · subst hnm
              simp [hm]
            · simp [hnm]
          rw [hseq]
          exact .refl _

theorem bringInto (s : Stage) (w : Nat) (e : Entity) : Restarts s (s.bringInto w e) := by
  have hbring : Restarts s (s.bring e) := of_append rfl (List.append_nil _).symm
  have hset : Restarts (s.bring e) ((s.bring e).setEntity s.entities.length
      { (s.bring e).entity s.entities.length with world := some w }) := setEntity (.refl _)
  exact trans_of Restarts hbring (trans_of Restarts hset (of_eq rfl rfl))

end Restarts

/-- Events are fired so that sequencers only start sequences. -/
abbrev OnlyRestarts (fire : Firing) : Prop :=
  ∀ h event payload, Leads Restarts (fire h event payload)

theorem restarts_report (r : Report) : Leads Restarts (report r) :=
  .modify fun _ => .of_eq rfl rfl

theorem restarts_play (h : Host) (id : String) : Leads Restarts (play h id) := by
  refine .get_bind fun s => ?_
  split
  · exact refl_of Restarts s
  · rename_i q hq
    exact .withSequencer (f := fun _ => q) (.of_play? hq)

theorem restarts_postpone (scene : String) : Leads Restarts (postpone scene) :=
  .modify fun _ => .of_eq rfl rfl

section Firing

variable {fire : Firing} (hfire : OnlyRestarts fire)

include hfire

theorem restarts_emitAudio (h : Host) (id : String) : Leads Restarts (emitAudio fire h id) := by
  refine .get_bind fun s => ?_
  split
  · exact restarts_report _ s
  · exact hfire _ _ _ s

theorem restarts_perform (h : Host) (a : Action) : Leads Restarts (perform fire h a) := by
  cases a with
  | emitAudio id => exact restarts_emitAudio hfire h id
  | emit event => exact hfire h event []
  | play id => exact restarts_play h id

theorem restarts_performAll (h : Host) (as : List Action) :
    Leads Restarts (performAll fire h as) :=
  .forM fun a _ => restarts_perform hfire h a

theorem restarts_enter (n : Nat) : Leads Restarts (enter fire n) := by
  refine Leads.bind (.modify fun _ => .of_eq rfl rfl) fun _ => ?_
  exact hfire _ _ _

theorem restarts_arrive (d : SceneDraft) : Leads Restarts (arrive fire d) := by
  refine Leads.get.bind fun s => Leads.bind (.modify fun t => ?_) fun _ => ?_
  · exact .of_append rfl rfl
  · exact restarts_enter hfire _

end Firing

theorem timeshift_sequencer (e : Entity) (dt : Elapsed) :
    (e.timeshift dt).1.sequencer = e.sequencer := by
  unfold Entity.timeshift
  dsimp only
  split
  · rfl
  · rfl

theorem restarts_change {n : Nat} {f : Entity → Entity × Except Fault Unit}
    (hf : ∀ e, (f e).1.sequencer = e.sequencer) : Leads Restarts (change n f) := by
  refine .get_bind fun s => ?_
  have hset : Restarts s (s.setEntity n (f (s.entity n)).1) := by
    refine .setEntity ?_
    rw [hf]
    exact .refl _
  exact trans_of Restarts hset (Leads.ofExcept (f (s.entity n)).2 _)

theorem restarts_simulate (w : Nat) (dt : Float) : Leads Restarts (simulate w dt) := by
  unfold simulate
  refine Leads.get.bind fun s => (Leads.forIn fun n _ _ => ?_).bind fun _ => .modify fun _ => ?_
  · exact (restarts_change fun e => timeshift_sequencer e _).bind fun _ => .pure _
  · exact .of_eq rfl rfl

theorem restarts_guarded (scene : String) {body : Play Unit} (hbody : Leads Restarts body) :
    Leads Restarts (guarded scene body) :=
  hbody.tryCatch fun _ => restarts_report _

theorem mem_interleave {tasks : List (List (Moment × Play Unit))} {x : Play Unit}
    (hx : x ∈ interleave tasks) : ∃ task ∈ tasks, ∃ entry ∈ task, entry.2 = x := by
  obtain ⟨entry, hentry, rfl⟩ := List.mem_map.1 hx
  obtain ⟨task, htask, hentry⟩ := List.mem_flatten.1 (List.mem_mergeSort.1 hentry)
  exact ⟨task, htask, entry, hentry, rfl⟩

variable [Application]

theorem restarts_spawn (h : Host) (c : SpawnCondition) : Leads Restarts (spawn h c) := by
  refine .get_bind fun s => ?_
  cases h with
  | scene n => exact refl_of Restarts s
  | entity n =>
      dsimp only
      split
      · exact refl_of Restarts s
      · rw [after_bind]
        cases c.constructor.make with
        | error f => exact refl_of Restarts s
        | ok e => exact .bringInto _ _ _

theorem restarts_commence (l : Loader) (scene : String) : Leads Restarts (commence l scene) := by
  unfold commence
  refine (Leads.forIn fun n _ _ => ?_).bind fun _ => ?_
  · split
    · exact (restarts_report _).bind fun _ => .pure _
    · exact .pure _
  · split
    · split
      · exact restarts_report _
      · exact .pure _
    · exact .pure _

theorem restarts_scheduled (l : Loader) {body : Play Unit} (hbody : Leads Restarts body) :
    Leads Restarts (scheduled l body) := by
  have hpending (p : Option (List String)) :
      Leads Restarts (modify fun s => { s with pending := p } : Play Unit) :=
    .modify fun _ => .of_eq rfl rfl
  unfold scheduled
  refine (hpending _).bind fun _ => ?_
  refine (Leads.tryCatch (hbody.bind fun _ => .pure _) fun _ => .pure _).bind fun r => ?_
  refine Leads.get.bind fun s => (hpending _).bind fun _ => ?_
  refine (Leads.forIn fun scene _ _ => ?_).bind fun _ => ?_
  · exact (restarts_commence l scene).bind fun _ => .pure _
  · cases r with
    | none => exact .pure _
    | some f => exact .throw f

section Firing

variable {fire : Firing} (hfire : OnlyRestarts fire)

include hfire

theorem restarts_switch (l : Loader) (scene : String) : Leads Restarts (switch l fire scene) := by
  refine Leads.get.bind fun s => ?_
  split
  · exact restarts_postpone scene
  · exact restarts_postpone scene
  · refine (Leads.forIn fun n _ _ => ?_).bind fun _ => (Leads.ofExcept _).bind fun d => ?_
    · exact (restarts_report _).bind fun _ => .pure _
    · exact restarts_scheduled l (restarts_arrive hfire d)

theorem restarts_handle (l : Loader) (h : Host) (event : String) (payload : List Payload)
    (handler : Handler) : Leads Restarts (handle l fire h event payload handler) := by
  cases handler with
  | actions as =>
      change Leads Restarts (if payload.isEmpty then performAll fire h as else throw .typeMismatch)
      split
      · exact restarts_performAll hfire h as
      · exact .throw _
  | spawn c => exact restarts_spawn h c
  | «switch» scene => exact restarts_switch hfire l scene
  | listener label => exact restarts_report _

end Firing

/-- However deep events are nested, what they do to sequencers is to start sequences. -/
theorem restarts_fire (l : Loader) (limit : Nat) : OnlyRestarts (fire l limit) := by
  induction limit with
  | zero => exact fun _ _ _ => .throw _
  | succ limit ih =>
      -- What a handler fires in its turn is nested one level deeper.
      intro h event payload
      refine Leads.get.bind fun s => (Leads.forIn fun handler _ _ => ?_).bind fun _ => .pure _
      exact (restarts_handle ih l h event payload handler).bind fun _ => .pure _

theorem restarts_commencePending (l : Loader) : Leads Restarts (commencePending l) := by
  refine Leads.get.bind fun s => Leads.bind (.modify fun _ => .of_eq rfl rfl) fun _ => ?_
  refine (Leads.forIn fun scene _ _ => ?_).bind fun _ => .pure _
  exact (restarts_commence l scene).bind fun _ => .pure _

theorem restarts_timeline (l : Loader) (limit : Nat) (scene : String) (start : Start) :
    ∀ entry ∈ timeline l limit scene start, Leads Restarts entry.2 := by
  intro entry hentry
  rcases List.mem_append.1 hentry with hentry | hentry
  · obtain ⟨n, -, rfl⟩ := List.mem_map.1 hentry
    exact restarts_report _
  · rw [List.mem_singleton.1 hentry]
    refine (restarts_guarded scene ((Leads.ofExcept _).bind fun d => ?_)).bind fun _ => ?_
    · exact restarts_arrive (restarts_fire l limit) d
    · exact restarts_commencePending l

theorem restarts_endScheduled (l : Loader) (limit n : Nat) :
    Leads Restarts (endScheduled l limit n) := by
  refine restarts_scheduled l ((restarts_fire l limit _ _ _).bind fun _ =>
    Leads.get.bind fun s => ?_)
  refine Leads.bind (.modify fun _ => .of_eq rfl rfl) fun _ => .forM fun x hx => ?_
  obtain ⟨task, htask, entry, hentry, rfl⟩ := mem_interleave hx
  obtain ⟨i, hi, rfl⟩ := List.mem_mapIdx.1 htask
  exact restarts_timeline _ limit _ _ entry hentry

end Stage

end Stagecraft
