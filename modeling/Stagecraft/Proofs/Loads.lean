import Stagecraft.Proofs.Overlaps

/-!
# Loads of others

Work that goes well has had no load that failed (`Timed.Sound`). So scenes that can be loaded do not
disturb each other: each of them waits for what the others load, and comes to the same draft as by
itself (`SceneDraft.loadNamed_of_faultless`).
-/

namespace Stagecraft

open Markup

namespace Timed

variable {α β : Type}

/-- If the work goes well, so have all of its loads. -/
def Sound (w : Timed α) : Prop :=
  ∀ a s, (w s).result = .ok a → ∀ u ∈ (w s).loads, u.fault = none

namespace Sound

theorem of_loads {w : Timed α} (h : ∀ s, (w s).loads = []) : Sound w := by
  intro a s _ u hu
  rw [h] at hu
  cases hu

theorem lift (r : Except Fault α) : Sound (liftM r : Timed α) := of_loads fun _ => rfl

theorem pure (a : α) : Sound (pure a : Timed α) := of_loads fun _ => rfl

theorem load (delay : Start → Nat) (r : Except Fault α) : Sound (load delay r) :=
  of_loads fun _ => rfl

theorem notice (n : Notice) : Sound (notice n) := of_loads fun _ => rfl

theorem task {a : Timed α} (ha : Sound a) (before after : Nat) : Sound (task before after a) :=
  fun x _ h => ha x _ h

/-- A load that others wait for goes well with the work that it is. -/
theorem tracked {a : Timed α} (ha : Sound a) : Sound (tracked a) := by
  intro x s h u hu
  have hx : (Timed.task 1 1 a s).result = .ok x := h
  rcases List.mem_append.1 hu with hu | hu
  · exact ha.task 1 1 x s hx u hu
  · rw [List.mem_singleton.1 hu]
    dsimp only
    rw [hx]

theorem bind {a : Timed α} {f : α → Timed β} (ha : Sound a) (hf : ∀ x, Sound (f x)) :
    Sound (a >>= f) := by
  intro b s h u hu
  obtain ⟨x, hx, hb⟩ := bind_eq_ok_iff.1 h
  have hloads : ((a >>= f) s).loads = (a s).loads ++ (f x (s.resume (a s).moment)).loads := by
    change (andThen a f s).loads = _
    unfold andThen
    simp only [hx]
  rw [hloads] at hu
  rcases List.mem_append.1 hu with hu | hu
  · exact ha x s hx u hu
  · exact hf x b _ hb u hu

theorem gather {works : List (Timed α)} (h : ∀ w ∈ works, Sound w) : Sound (gather works) := by
  intro as s has u hu
  have hends := gather_eq_ok_iff.1 has
  have hmem : u ∈ ((ends works s).map (·.loads)).flatten := by
    unfold Timed.gather at hu
    split at hu
    · cases hu
    · dsimp only at hu
      split at hu
      · exact hu
      · exact hu
  obtain ⟨loads, hloads, hu⟩ := List.mem_flatten.1 hmem
  obtain ⟨e, he, rfl⟩ := List.mem_map.1 hloads
  obtain ⟨a, -, ha⟩ := Attempt.exists_mem_of_forall₂_left hends he
  obtain ⟨w, hw, t, rfl⟩ := mem_ends he
  exact h w hw a t ha u hu

theorem both {a : Timed α} {b : Timed β} (ha : Sound a) (hb : Sound b) : Sound (both a b) := by
  intro p s h u hu
  obtain ⟨hx, hy⟩ := both_eq_ok_iff.1 h
  have hmem : u ∈ (a (s.piece 0)).loads ++ (b (s.piece 1)).loads := by
    unfold Timed.both at hu
    simpa only [hx, hy] using hu
  rcases List.mem_append.1 hmem with hu | hu
  · exact ha _ _ hx u hu
  · exact hb _ _ hy u hu

theorem forIn {f : α → β → Timed (ForInStep β)} {as : List α} {b : β}
    (h : ∀ a b, Sound (f a b)) : Sound (forIn as b f) := by
  induction as generalizing b with
  | nil => exact pure b
  | cons a as ih =>
      rw [List.forIn_cons]
      refine (h a b).bind fun r => ?_
      cases r with
      | done c => exact pure c
      | yield c => exact ih

theorem foldlM {f : β → α → Timed β} {as : List α} {b : β} (h : ∀ b a, Sound (f b a)) :
    Sound (as.foldlM f b) := by
  induction as generalizing b with
  | nil => exact pure b
  | cons a as ih =>
      rw [List.foldlM_cons]
      exact (h b a).bind fun c => ih

/-- Waiting for the loads of others loads nothing. -/
theorem complete (loads : List Load) : Sound (complete loads) := by
  unfold Timed.complete
  generalize loads.length = rounds
  refine of_loads fun s => ?_
  induction rounds generalizing s with
  | zero => rfl
  | succ rounds ih =>
      unfold completeIn
      dsimp only
      split
      · rfl
      · split
        · rfl
        · exact ih _

end Sound

/-- Where some work goes well, other work has the same value, wherever it starts. -/
def Yields (v w : Timed α) : Prop := ∀ a s t, (v s).result = .ok a → (w t).result = .ok a

theorem Steady.yields {w : Timed α} (h : Steady w) : Yields w w := h

theorem Yields.bind {v w : Timed α} {f g : α → Timed β} (h : Yields v w)
    (hf : ∀ x, Yields (f x) (g x)) : Yields (v >>= f) (w >>= g) := by
  intro b s t hb
  obtain ⟨x, hx, hb⟩ := bind_eq_ok_iff.1 hb
  exact bind_eq_ok_iff.2 ⟨x, h x s t hx, hf x b _ _ hb⟩

theorem Yields.task {v w : Timed α} (h : Yields v w) (before after : Nat) :
    Yields (task before after v) (task before after w) := fun a _ _ ha => h a _ _ ha

theorem yields_complete {loads others : List Load} (h : ∀ u ∈ others, u.fault = none) :
    Yields (complete loads) (complete others) :=
  fun _ _ t _ => complete_result_of_faultless h t

end Timed

namespace Loader

variable (l : Loader) (c : Cursor)

theorem sound_fetch (url : String) : (l.fetch url).Sound :=
  (Timed.Sound.lift _).bind fun _ => .load _ _

theorem sound_loadDocument (url : String) : (l.loadDocument url).Sound :=
  (l.sound_fetch url).bind fun _ => (Timed.Sound.lift _).bind fun _ => .pure _

theorem sound_loadPicture (url : String) : (l.loadPicture url).Sound :=
  ((l.sound_fetch url).bind fun _ => .load _ _).tracked

theorem sound_loadClip (url : String) : (l.loadClip url).Sound :=
  ((l.sound_fetch url).bind fun _ => .pure _).tracked

theorem sound_follow : (l.follow c).Sound := by
  refine (Timed.Sound.lift _).bind fun url => ?_
  cases url with
  | none => exact .pure _
  | some url => exact l.sound_loadDocument url

theorem sound_clipOf : (l.clipOf c).Sound := by
  refine (Timed.Sound.lift _).bind fun url => ?_
  cases url with
  | none => exact .lift _
  | some url => exact l.sound_loadClip url

theorem sound_pictureOf : (l.pictureOf c).Sound := by
  refine (Timed.Sound.lift _).bind fun url => ?_
  cases url with
  | none => exact .lift _
  | some url => exact l.sound_loadPicture url

end Loader

theorem Clip.sound_allOf (l : Loader) (c : Cursor) : (Clip.allOf l c).Sound := by
  refine (Timed.Sound.lift _).bind fun sounds => Timed.Sound.bind (.gather ?_) fun _ => .pure _
  intro w hw
  obtain ⟨sound, -, rfl⟩ := List.mem_map.1 hw
  exact l.sound_clipOf sound.2

namespace Pool

theorem sound_atlas (l : Loader) (c : Cursor) : (atlas l c).Sound := by
  refine Timed.Sound.bind (.bind (.gather fun w hw => ?_) fun _ => .pure _) fun _ =>
    (Timed.Sound.lift _).bind fun _ => .pure _
  obtain ⟨e, -, rfl⟩ := List.mem_map.1 hw
  exact (l.sound_pictureOf e.1).bind fun _ => (Timed.Sound.lift _).bind fun _ => .pure _

theorem sound_ofElement [Application] (l : Loader) (c : Cursor) : (ofElement l c).Sound := by
  refine Timed.Sound.task ?_ 1 2
  refine (Timed.Sound.lift _).bind fun items => (sound_atlas l c).bind fun a =>
    Timed.Sound.bind (.gather fun w hw => ?_) fun _ =>
      Timed.Sound.bind (.forIn fun b _ => ?_) fun _ => .pure _
  · obtain ⟨item, -, rfl⟩ := List.mem_map.1 hw
    exact (Timed.Sound.lift _).bind fun _ => (Clip.sound_allOf l item.2).bind fun _ => .pure _
  · split
    · exact .pure _
    · exact (Timed.Sound.notice _).bind fun _ => .pure _

end Pool

namespace SceneDraft

variable [Application] {l : Loader} {c : Cursor} {name : String} {d : SceneDraft} {s : Start}

theorem sound_objects (l : Loader) (c : Cursor) : (objects l c).Sound := by
  refine Timed.Sound.bind (.gather fun w hw => ?_) fun roots =>
    Timed.Sound.bind (.forIn fun _ _ => (Timed.Sound.lift _).bind fun _ => .pure _) fun _ =>
      Timed.Sound.bind (.gather fun w hw => ?_) fun pools => .foldlM fun all pool => ?_
  · obtain ⟨o, -, rfl⟩ := List.mem_map.1 hw
    exact l.sound_follow o
  · obtain ⟨root, -, rfl⟩ := List.mem_map.1 hw
    exact Pool.sound_ofElement l root
  · refine Timed.Sound.bind (.forIn fun e _ => ?_) fun _ => .pure _
    split
    · exact (Timed.Sound.notice _).bind fun _ => .pure _
    · exact .pure _

theorem sound_unsettled (l : Loader) (c : Cursor) : (unsettled l c).Sound := by
  refine (Timed.Sound.lift _).bind fun camera => (Timed.Sound.lift _).bind fun bus =>
    (Timed.Sound.lift _).bind fun placed => (Timed.Sound.lift _).bind fun gravity =>
    (Timed.Sound.lift _).bind fun sequences =>
    ((Clip.sound_allOf l c).both (sound_objects l c)).bind fun loaded =>
    (Timed.Sound.lift _).bind fun layout => (Timed.Sound.complete _).bind fun _ => .pure _

/-- A scene that can be loaded has had no load that failed. -/
theorem sound_loadNamed (l : Loader) (name : String) : (loadNamed l name).Sound := by
  unfold loadNamed
  cases l.settings.scenes.get? name with
  | none => exact .lift _
  | some url =>
      refine (Timed.Sound.notice _).bind fun _ => (l.sound_loadDocument url).bind fun root =>
        (Timed.Sound.lift _).bind fun c => (Timed.Sound.lift _).bind fun _ => .task ?_ 1 2
      exact (sound_unsettled l c).bind fun _ => (Timed.Sound.lift _).bind fun _ =>
        (Timed.Sound.notice _).bind fun _ => .pure _

section Others

variable {others : List Load}

theorem yields_unsettled (h : ∀ u ∈ others, u.fault = none) (c : Cursor) :
    Timed.Yields (unsettled l c) (unsettled { l with underway := others } c) := by
  have hboth := (Clip.steady_allOf l c).both (steady_objects l c)
  refine (Timed.Steady.lift _).yields.bind fun camera =>
    (Timed.Steady.lift _).yields.bind fun bus =>
    (Timed.Steady.lift _).yields.bind fun placed =>
    (Timed.Steady.lift _).yields.bind fun gravity =>
    (Timed.Steady.lift _).yields.bind fun sequences => hboth.yields.bind fun loaded =>
    (Timed.Steady.lift _).yields.bind fun layout => (Timed.yields_complete h).bind fun _ =>
      (Timed.Steady.pure _).yields

/-- A scene that can be loaded can be loaded at any time, and while others load what does not
fail. -/
theorem loadNamed_of_faultless (h : ∀ u ∈ others, u.fault = none)
    (hload : (loadNamed l name s).result = .ok d) (t : Start) :
    (loadNamed { l with underway := others } name t).result = .ok d := by
  have hyields :
      Timed.Yields (loadNamed l name) (loadNamed { l with underway := others } name) := by
    unfold loadNamed
    dsimp only
    cases l.settings.scenes.get? name with
    | none => exact (Timed.Steady.lift _).yields
    | some url =>
        refine (Timed.Steady.notice _).yields.bind fun _ =>
          (l.steady_loadDocument url).yields.bind fun root =>
          (Timed.Steady.lift _).yields.bind fun c => (Timed.Steady.lift _).yields.bind fun _ =>
          .task ?_ 1 2
        exact (yields_unsettled h c).bind fun _ => (Timed.Steady.lift _).yields.bind fun _ =>
          (Timed.Steady.notice _).yields.bind fun _ => (Timed.Steady.pure _).yields
  exact hyields d s t hload

end Others

end SceneDraft

end Stagecraft
