import Stagecraft.Proofs.Flaws
import Stagecraft.Proofs.Turns

/-!
# Defects come before loads

An entity is read at once, up to its sounds, and then its sounds are asked for side by side. The
entities of a pool take part in this side by side as well, so that each of them has been read
before the sounds of any are asked for, and all sounds have been asked for before any of them has
come. What is wrong with an earlier stage of one entity is therefore told before what is wrong with
a later stage of any other, in document order at each stage.
-/

namespace Stagecraft

open Markup

theorem findSome?_flatMap {α β γ : Type} {xs : List α} {g : α → List β} {o : β → Option γ} :
    (xs.flatMap g).findSome? o = xs.findSome? fun x => (g x).findSome? o := by
  induction xs with
  | nil => rfl
  | cons x xs ih =>
      rw [List.flatMap_cons, List.findSome?_append, ih, List.findSome?_cons]
      cases (g x).findSome? o <;> rfl

namespace Attempt

variable {ε α β : Type}

def fault? : Except ε α → Option ε
  | .ok _ => none
  | .error e => some e

theorem fault?_eq_some_iff {x : Except ε α} {e : ε} : fault? x = some e ↔ x = .error e := by
  cases x <;> simp [fault?]

theorem fault?_eq_none_iff {x : Except ε α} : fault? x = none ↔ ∃ a, x = .ok a := by
  cases x <;> simp [fault?]

/-- Of two steps that do not depend on each other, the first fault counts. -/
theorem fault?_bind {x : Except ε α} {g : α → Except ε β} {o : Option ε}
    (h : ∀ a, fault? (g a) = o) : fault? (x >>= g) = (fault? x).or o := by
  cases x with
  | ok a => exact h a
  | error e => rfl

end Attempt

open Attempt (fault? fault?_bind fault?_eq_some_iff fault?_eq_none_iff)

namespace Loader

variable (l : Loader)

/-- What goes wrong when a sound is asked for, before anything is loaded. -/
def askFault? (sound : Cursor) : Option Fault :=
  match l.resolve sound "src" with
  | .ok (some _) => none
  | .ok none => some (.defect .audioSource sound.element)
  | .error f => some f

variable {l}

theorem exists_due_fetch (url : String) (s : Start) : ∃ o, (l.fetch url s).Due s.moment o := by
  unfold fetch
  cases h : Storage.sourceOf url with
  | error f => exact ⟨some f, Timed.due_bind (Timed.due_lift_error f s) (by simp)⟩
  | ok source =>
      refine ⟨none, Timed.due_bind_of_ok rfl ?_⟩
      intro f _
      exact s.moment.isBefore_afterLoad 0 _

theorem due_loadClip (url : String) (s : Start) : (l.loadClip url s).Due s.moment none := by
  obtain ⟨o, ho⟩ := l.exists_due_fetch url (s.later 1)
  refine Ended.Due.early (o := o) (Timed.due_task 1 1 (Timed.due_bind_pure ho)) ?_
  rw [Start.later, Moment.later_later]
  exact s.moment.isBefore_later_self (by decide)

theorem due_clipOf (sound : Cursor) (s : Start) :
    (l.clipOf sound s).Due s.moment (l.askFault? sound) := by
  unfold clipOf askFault?
  cases h : l.resolve sound "src" with
  | error f => exact Timed.due_bind (Timed.due_lift_error f s) (by simp)
  | ok url =>
      cases url with
      | none => exact Timed.due_bind_of_ok rfl (Timed.due_lift_error _ s)
      | some url => exact Timed.due_bind_of_ok rfl (due_loadClip url s)

/-- What comes of a sound does not depend on when it is asked for. -/
theorem clipOf_result (sound : Cursor) (s : Start) :
    (l.clipOf sound s).result = (l.clipOf sound).run.1 := by
  have hload (url : String) (s t : Start) :
      (l.loadClip url s).result = (l.loadClip url t).result := by
    simp [loadClip, fetch, Timed.bind_result]
  change _ = (l.clipOf sound {}).result
  unfold clipOf
  rw [Timed.bind_result, Timed.bind_result]
  simp only [Timed.lift_result]
  cases l.resolve sound "src" with
  | error f => rfl
  | ok url =>
      cases url with
      | none => rfl
      | some url => exact hload url _ _

end Loader

namespace Clip

variable {l : Loader} {c : Cursor}

theorem due_allOf {sounds : List (String × Cursor)} (h : elements c = .ok sounds) (s : Start) :
    (allOf l c s).Due (s.moment.later 3) ((sources c).findSome? l.askFault?) := by
  have hsources : sounds.map (·.2) = sources c :=
    Attempt.map_eq_of_forall₂ ((forall₂_of_elements h).imp fun _ _ hd => hd.2)
  unfold allOf
  rw [h, ← hsources, List.findSome?_map]
  refine Timed.due_bind_of_ok rfl (Timed.due_bind_pure ?_)
  have hdue (i : Nat) : ∀ e ∈ sounds,
      (l.clipOf e.2 (s.piece i)).Due (s.moment.later 1) (l.askFault? e.2) :=
    fun e _ => Loader.due_clipOf e.2 (s.piece i)
  exact Timed.due_gather hdue

theorem failsIn_clips {sounds : List (String × Cursor)} (h : elements c = .ok sounds) :
    Timed.FailsIn (fun f => ∃ sound ∈ sources c, (l.clipOf sound).run.1 = .error f)
      (allOf l c) := by
  unfold allOf
  rw [h]
  refine Timed.FailsIn.bind (.lift (.ok _)) fun _ _ hsounds => ?_
  cases hsounds
  refine Timed.FailsIn.bind (.gather fun w hw => ?_) fun _ _ _ => .pure _
  obtain ⟨e, he, rfl⟩ := List.mem_map.1 hw
  obtain ⟨sound, hsound, -, rfl⟩ := Attempt.exists_mem_of_forall₂ (forall₂_of_elements h) he
  intro s f hf
  exact ⟨e.2, hsound, (Loader.clipOf_result e.2 s).symm.trans hf⟩

def isMute (sound : Cursor) : Bool := (sound.get? "src").filter (· ≠ "") = none

end Clip

namespace Loader

variable {l : Loader}

theorem resolve_eq_none_iff {c : Cursor} {name : String} :
    l.resolve c name = .ok none ↔ (c.get? name).filter (· ≠ "") = none := by
  unfold resolve
  constructor
  · intro h
    split at h
    · assumption
    · split at h
      · cases h
      · split at h
        · cases h
        · obtain ⟨_, -, h⟩ := Attempt.map_eq_ok_iff.1 h
          cases h
  · intro h
    rw [h]

theorem resolve_of_askFault? {sound : Cursor} (h : l.askFault? sound = none) :
    ∃ url, l.resolve sound "src" = .ok (some url) := by
  unfold askFault? at h
  split at h
  · exact ⟨_, ‹_›⟩
  · cases h
  · cases h

theorem isLocal_of_askFault? {sound : Cursor} {f : Fault} (h : l.askFault? sound = some f) :
    f.isLocal := by
  unfold askFault? at h
  split at h
  · cases h
  · cases h
    rfl
  · rename_i hresolve
    cases h
    have hstrays : Attempt.FailsIn (l.StraysToSound sound) (l.resolve sound "src") :=
      failsIn_resolve
    exact (hstrays f hresolve).isLocal

/-- If all references can be resolved, the first sound without one is what goes wrong. -/
theorem findSome?_askFault? {sounds : List Cursor}
    (h : ∀ s ∈ sounds, ∃ url, l.resolve s "src" = .ok url) :
    sounds.findSome? l.askFault? =
      (sounds.find? Clip.isMute).map fun s => .defect .audioSource s.element := by
  induction sounds with
  | nil => rfl
  | cons s sounds ih =>
      have hsounds := ih fun t ht => h t (List.mem_cons_of_mem s ht)
      obtain ⟨url, hurl⟩ := h s List.mem_cons_self
      rw [List.findSome?_cons, List.find?_cons]
      unfold askFault?
      rw [hurl]
      cases url with
      | none =>
          have hmute : Clip.isMute s = true := decide_eq_true (resolve_eq_none_iff.1 hurl)
          rw [hmute]
          rfl
      | some url =>
          have hmute : Clip.isMute s = false := by
            apply decide_eq_false
            intro hnone
            cases hurl.symm.trans (resolve_eq_none_iff.2 hnone)
          rw [hmute]
          exact hsounds

end Loader

namespace Blueprint

variable [Application]

/-- The first thing that is wrong with an entity, its sounds taken as elements only. -/
def staticFault? (host : Registrations) (a : Atlas) (c : Cursor) : Option Fault :=
  (fault? (baseOf host c)).or <|
  (fault? (Figure.ofElement host a ((c.get? "id").getD "") c)).or <|
  (fault? (Zone.allOf c)).or <|
  (fault? (declared c "events" EventBinding.allOf)).or <|
  (fault? (declared c "traits" (TraitMaker.allOf (some host)))).or <|
  (fault? (declared c "sequences" SequenceDef.allOf)).or <|
  (fault? (AnimationRouter.ofElement host c)).or <|
  fault? (Clip.elements c)

theorem staticFault?_eq (host : Registrations) (a : Atlas) (c : Cursor) :
    staticFault? host a c = (fault? (silent host a c)).or (fault? (Clip.elements c)) := by
  have hsilent : fault? (silent host a c) = _ :=
    fault?_bind fun _ => fault?_bind fun _ => fault?_bind fun _ => fault?_bind fun _ =>
      fault?_bind fun _ => fault?_bind fun _ => fault?_bind (o := none) fun _ => rfl
  rw [hsilent]
  simp only [staticFault?, Option.or_none, Option.or_assoc]

theorem isLocal_of_staticFault? (happ : Application.Discreet) {host : Registrations} {a : Atlas}
    {c : Cursor} {f : Fault} (h : staticFault? host a c = some f) : f.isLocal := by
  rw [staticFault?_eq, Option.or_eq_some_iff, fault?_eq_some_iff, fault?_eq_some_iff] at h
  rcases h with h | ⟨-, h⟩
  · have hsilent := failsIn_silent (l := { host }) a (fun _ => Flaw.isLocal)
      (fun _ font _ s => happ.typeset font s) (TraitMaker.local_declared happ host c)
    exact (hsilent f h).elim Fault.isLocal_of_isDefect fun hf => hf
  · exact Fault.isLocal_of_isDefect (Clip.reports_elements c f h)

variable {l : Loader} {a : Atlas} {c : Cursor}

theorem due_of_staticFault? {f : Fault} (h : staticFault? l.host a c = some f) (s : Start) :
    (ofElement l a c s).Due s.moment (some f) := by
  rw [staticFault?_eq, Option.or_eq_some_iff, fault?_eq_some_iff, fault?_eq_none_iff,
    fault?_eq_some_iff] at h
  unfold ofElement
  rcases h with h | ⟨⟨b, hb⟩, h⟩
  · rw [h]
    exact Timed.due_bind (Timed.due_lift_error f s) (by simp)
  · rw [hb]
    refine Timed.due_bind_of_ok rfl (Timed.due_bind_pure ?_)
    unfold Clip.allOf
    rw [h]
    exact Timed.due_bind (Timed.due_lift_error f s) (by simp)

theorem exists_of_static_none (h : staticFault? l.host a c = none) :
    (∃ b, silent l.host a c = .ok b) ∧ ∃ sounds, Clip.elements c = .ok sounds := by
  rwa [staticFault?_eq, Option.or_eq_none_iff, fault?_eq_none_iff, fault?_eq_none_iff] at h

theorem due_of_static_none (h : staticFault? l.host a c = none) (s : Start) :
    (ofElement l a c s).Due (s.moment.later 3) ((Clip.sources c).findSome? l.askFault?) := by
  obtain ⟨⟨b, hb⟩, sounds, hsounds⟩ := exists_of_static_none h
  unfold ofElement
  rw [hb]
  exact Timed.due_bind_of_ok rfl (Timed.due_bind_pure (Clip.due_allOf hsounds _))

theorem failsIn_of_static_none (h : staticFault? l.host a c = none) :
    Timed.FailsIn (fun f => ∃ sound ∈ Clip.sources c, (l.clipOf sound).run.1 = .error f)
      (ofElement l a c) := by
  obtain ⟨⟨b, hb⟩, sounds, hsounds⟩ := exists_of_static_none h
  unfold ofElement
  rw [hb]
  exact Timed.FailsIn.bind (.lift (.ok b)) fun _ _ _ =>
    (Clip.failsIn_clips hsounds).bind fun _ _ _ => .pure _

end Blueprint

namespace Pool

theorem values_of_items {c : Cursor} {found : Catalog Cursor} (h : items c = .ok found) :
    found.map (·.2) = c.childrenTagged (itemTag c) :=
  Attempt.map_eq_of_forall₂ ((items_eq_ok h).2.imp fun _ _ hitem => hitem.2.2)

section

variable [Application] {l : Loader} {c : Cursor} {found : Catalog Cursor} {a : Atlas}

/-- With its items and its atlas, a pool fails as its items do side by side. -/
theorem exists_run_eq_error_iff (hitems : items c = .ok found)
    (hatlas : (atlas l c).run.1 = .ok a) :
    ∃ s, ∀ f, (ofElement l c).run.1 = .error f ↔
      (Timed.gather (found.map fun e => Blueprint.ofElement l a e.2) s).result = .error f := by
  let s : Start := ({} : Start).later 1
  refine ⟨s.resume (atlas l c s).moment, fun f => ?_⟩
  have hatlas : (atlas l c s).result = .ok a := steady_atlas l c a {} s hatlas
  change (compile l c s).result = .error f ↔ _
  unfold compile
  rw [hitems, Timed.bind_result, Timed.lift_result]
  dsimp only
  rw [Timed.bind_result, Timed.lift_moment, Start.resume_moment, hatlas]
  dsimp only
  rw [Timed.bind_eq_error_iff]
  constructor
  · rintro (h | ⟨blueprints, -, h⟩)
    · exact h
    · exact (failsIn_told (P := fun _ => False) blueprints _ _ f h).elim
  · exact .inl

/-- If each entity is known at the moment that is due, the first one with a fault counts. -/
theorem run_of_due (hitems : items c = .ok found) (hatlas : (atlas l c).run.1 = .ok a)
    {o : Cursor → Option Fault} (turns : Nat)
    (hdue : ∀ item ∈ c.childrenTagged (itemTag c), ∀ s,
      (Blueprint.ofElement l a item s).Due (s.moment.later turns) (o item))
    {f : Fault} (h : (c.childrenTagged (itemTag c)).findSome? o = some f) :
    (ofElement l c).run.1 = .error f := by
  obtain ⟨s, hs⟩ := exists_run_eq_error_iff hitems hatlas
  rw [← values_of_items hitems] at hdue h
  have hpiece (i : Nat) : ∀ e ∈ found,
      (Blueprint.ofElement l a e.2 (s.piece i)).Due ((s.moment.later 1).later turns) (o e.2) :=
    fun e he => hdue e.2 (List.mem_map_of_mem he) (s.piece i)
  have hgather := Timed.due_gather hpiece
  rw [List.findSome?_map] at h
  change List.findSome? (fun e => o e.2) found = some f at h
  rw [h] at hgather
  exact (hs f).2 hgather.1

theorem run_of_static (hitems : items c = .ok found) (hatlas : (atlas l c).run.1 = .ok a)
    {f : Fault}
    (h : (c.childrenTagged (itemTag c)).findSome? (Blueprint.staticFault? l.host a) = some f) :
    (ofElement l c).run.1 = .error f := by
  apply run_of_due hitems hatlas 0 _ h
  intro item _ s
  -- An entity without a static defect fails too, maybe, but only once its sounds are asked for.
  cases ho : Blueprint.staticFault? l.host a item with
  | some g => exact Blueprint.due_of_staticFault? ho s
  | none =>
      exact (Blueprint.due_of_static_none ho s).early (s.moment.isBefore_later_self (by decide))

variable (hstatic :
  (c.childrenTagged (itemTag c)).findSome? (Blueprint.staticFault? l.host a) = none)

include hstatic

theorem run_of_static_none (hitems : items c = .ok found) (hatlas : (atlas l c).run.1 = .ok a)
    {f : Fault}
    (h : ((c.childrenTagged (itemTag c)).flatMap Clip.sources).findSome? l.askFault? = some f) :
    (ofElement l c).run.1 = .error f := by
  rw [List.findSome?_eq_none_iff] at hstatic
  rw [findSome?_flatMap] at h
  exact run_of_due hitems hatlas 3
    (fun item hitem s => Blueprint.due_of_static_none (hstatic item hitem) s) h

theorem clip_of_static_none (hitems : items c = .ok found) (hatlas : (atlas l c).run.1 = .ok a)
    {f : Fault} (h : (ofElement l c).run.1 = .error f) :
    ∃ sound ∈ (c.childrenTagged (itemTag c)).flatMap Clip.sources,
      (l.clipOf sound).run.1 = .error f := by
  obtain ⟨s, hs⟩ := exists_run_eq_error_iff hitems hatlas
  rw [List.findSome?_eq_none_iff] at hstatic
  obtain ⟨w, hw, _, hf⟩ := Timed.exists_mem_of_gather_eq_error ((hs f).1 h)
  obtain ⟨e, he, rfl⟩ := List.mem_map.1 hw
  have hitem : e.2 ∈ c.childrenTagged (itemTag c) :=
    values_of_items hitems ▸ List.mem_map_of_mem he
  obtain ⟨sound, hsound, hclip⟩ := Blueprint.failsIn_of_static_none (hstatic e.2 hitem) _ f hf
  exact ⟨sound, List.mem_flatMap.2 ⟨e.2, hitem, hsound⟩, hclip⟩

omit hstatic

variable {url : String} {reason : LoadFailure}

theorem static_none_of_load (happ : Application.Discreet) (hitems : items c = .ok found)
    (hatlas : (atlas l c).run.1 = .ok a) (h : (ofElement l c).run.1 = .error (.load url reason)) :
    (c.childrenTagged (itemTag c)).findSome? (Blueprint.staticFault? l.host a) = none := by
  cases hf : (c.childrenTagged (itemTag c)).findSome? (Blueprint.staticFault? l.host a) with
  | none => rfl
  | some f =>
      obtain ⟨item, -, hitem⟩ := List.exists_of_findSome?_eq_some hf
      cases h.symm.trans (run_of_static hitems hatlas hf)
      cases Blueprint.isLocal_of_staticFault? happ hitem

theorem askFault?_none_of_load (happ : Application.Discreet) (hitems : items c = .ok found)
    (hatlas : (atlas l c).run.1 = .ok a) (h : (ofElement l c).run.1 = .error (.load url reason)) :
    ((c.childrenTagged (itemTag c)).flatMap Clip.sources).findSome? l.askFault? = none := by
  have hstatic := static_none_of_load happ hitems hatlas h
  cases hf : ((c.childrenTagged (itemTag c)).flatMap Clip.sources).findSome? l.askFault? with
  | none => rfl
  | some f =>
      obtain ⟨sound, -, hsound⟩ := List.exists_of_findSome?_eq_some hf
      cases h.symm.trans (run_of_static_none hstatic hitems hatlas hf)
      cases Loader.isLocal_of_askFault? hsound

end

/-- A pool whose first entity has a sound without a source and whose second one has a zone of no
kind. -/
def belfry : Cursor :=
  .ofDocument
    ⟨⟨"entities", [], 1,
      [.element "entity" [("id", "bell")] 1
        [.element "audio" [] 1 [.element "sound" [("id", "ring")] 1 []]],
      .element "entity" [("id", "tower")] 1
        [.element "collision" [] 1 [.element "blob" [] 1 []]]]⟩, none⟩

/-- A pool whose entity has a sound that is not there. -/
def steeple : Cursor :=
  .ofDocument
    ⟨⟨"entities", [], 1,
      [.element "entity" [("id", "bell")] 1
        [.element "audio" [] 1 [.element "sound" [("id", "ring"), ("src", "ring.ogg")] 1 []]]]⟩,
      none⟩

end Pool

end Stagecraft
