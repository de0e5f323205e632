import Stagecraft.Proofs.Waiting

/-!
# Which fault comes first

Work done side by side fails with the fault that comes first. `Ended.Due` says of one piece of work
whether it has failed by a moment that is due: it either has a fault at exactly that moment, or it
does not fail until later. If each piece is known in this way, then so is the whole: its fault is
that of the first piece that has one.
-/

namespace Stagecraft

namespace Moment

theorem isBefore_iff {a b : Moment} :
    a.isBefore b = true ↔ a.loads < b.loads ∨ a.loads = b.loads ∧ a.turns < b.turns := by
  simp [isBefore]

theorem isBefore_later (a b : Moment) (turns : Nat) :
    (a.later turns).isBefore (b.later turns) = a.isBefore b := by
  rw [Bool.eq_iff_iff, isBefore_iff, isBefore_iff]
  simp [later]

theorem isBefore_later_self (a : Moment) {turns : Nat} (h : 0 < turns) :
    a.isBefore (a.later turns) = true := by
  simp [isBefore_iff, later, h]

theorem later_later (a : Moment) (m n : Nat) : (a.later m).later n = a.later (m + n) := by
  simp [later, Nat.add_assoc]

theorem isBefore_trans {a b c : Moment} (hab : a.isBefore b = true) (hbc : b.isBefore c = true) :
    a.isBefore c = true := by
  rw [isBefore_iff] at *
  omega

theorem isBefore_asymm {a b : Moment} (h : a.isBefore b = true) : b.isBefore a = false := by
  rw [← Bool.not_eq_true, isBefore_iff]
  rw [isBefore_iff] at h
  omega

/-- A load comes after everything that happens in the turns before it. -/
theorem isBefore_afterLoad (a : Moment) (turns delay : Nat) :
    a.isBefore ((a.later turns).afterLoad delay) = true := by
  simp [isBefore_iff, later, afterLoad]
  omega

end Moment

/-- Work has failed at the moment that is due, or without a fault then, it does not fail until
later. -/
def Ended.Due {α : Type} (due : Moment) (e : Ended α) : Option Fault → Prop
  | some f => e.result = .error f ∧ e.moment = due
  | none => ∀ f, e.result = .error f → due.isBefore e.moment = true

namespace Ended

variable {α β : Type} {due : Moment} {e : Ended α}

theorem due_of_ok {a : α} (h : e.result = .ok a) : e.Due due none := by
  intro f hf
  rw [h] at hf
  cases hf

/-- What is due later has not happened yet. -/
theorem Due.early {o : Option Fault} {now : Moment} (h : e.Due due o)
    (hnow : now.isBefore due = true) : e.Due now none := by
  intro f hf
  cases o with
  | none => exact Moment.isBefore_trans hnow (h f hf)
  | some g =>
      obtain ⟨-, rfl⟩ := h
      exact hnow

end Ended

namespace Timed

variable {α β γ : Type} {due : Moment} {s : Start}

@[simp] theorem lift_moment (r : Except Fault α) (s : Start) :
    ((liftM r : Timed α) s).moment = s.moment := rfl

theorem due_lift_error (f : Fault) (s : Start) :
    ((liftM (.error f : Except Fault α) : Timed α) s).Due s.moment (some f) := ⟨rfl, rfl⟩

theorem bind_moment_of_error {a : Timed α} {f : Fault} (g : α → Timed β)
    (h : (a s).result = .error f) : ((a >>= g) s).moment = (a s).moment := by
  change (andThen a g s).moment = _
  unfold andThen
  simp only [h]

theorem bind_of_ok {a : Timed α} {x : α} (g : α → Timed β) (h : (a s).result = .ok x) :
    ((a >>= g) s).result = (g x (s.resume (a s).moment)).result ∧
      ((a >>= g) s).moment = (g x (s.resume (a s).moment)).moment := by
  change (andThen a g s).result = _ ∧ (andThen a g s).moment = _
  unfold andThen
  simp only [h, and_self]

/-- After work that has gone well, the rest decides. -/
theorem due_bind_of_ok {a : Timed α} {x : α} {g : α → Timed β} {o : Option Fault}
    (h : (a s).result = .ok x) (hg : (g x (s.resume (a s).moment)).Due due o) :
    ((a >>= g) s).Due due o := by
  obtain ⟨hresult, hmoment⟩ := bind_of_ok g h
  cases o with
  | some f => exact ⟨hresult.trans hg.1, hmoment.trans hg.2⟩
  | none =>
      intro f hf
      rw [hmoment]
      exact hg f (hresult.symm.trans hf)

/-- What is due of the first part is due of the whole, unless the rest fails as soon. -/
theorem due_bind {a : Timed α} {g : α → Timed β} {o : Option Fault} (h : (a s).Due due o)
    (hg : ∀ x, (a s).result = .ok x → (g x (s.resume (a s).moment)).Due due none) :
    ((a >>= g) s).Due due o := by
  cases o with
  | some f =>
      obtain ⟨hf, hdue⟩ := h
      constructor
      · exact bind_eq_error_iff.2 (.inl hf)
      · rw [bind_moment_of_error g hf]
        exact hdue
  | none =>
      cases ha : (a s).result with
      | ok x => exact due_bind_of_ok ha (hg x ha)
      | error f =>
          intro _ _
          rw [bind_moment_of_error g ha]
          exact h f ha

theorem due_bind_pure {a : Timed α} {g : α → β} {o : Option Fault} (h : (a s).Due due o) :
    ((a >>= fun x => pure (g x)) s).Due due o :=
  due_bind h fun _ _ => Ended.due_of_ok (pure_result _ _)

theorem due_task {a : Timed α} {o : Option Fault} (before after : Nat)
    (h : (a (s.later before)).Due due o) :
    (task before after a s).Due (due.later after) o := by
  cases o with
  | some f => exact ⟨h.1, congrArg (Moment.later · after) h.2⟩
  | none =>
      intro f hf
      change (due.later after).isBefore ((a (s.later before)).moment.later after) = true
      rw [Moment.isBefore_later]
      exact h f hf

/-- A fault that has come at the moment that is due stays the first one, unless one came before. -/
theorem foldl_earlier_of_due {es : List (Ended α)} {f : Fault}
    (h : ∀ e ∈ es, ∃ o, e.Due due o) : es.foldl earlier (some (f, due)) = some (f, due) := by
  induction es with
  | nil => rfl
  | cons e es ih =>
      have hkeep : earlier (some (f, due)) e = some (f, due) := by
        obtain ⟨o, ho⟩ := h e List.mem_cons_self
        unfold earlier
        cases he : e.result with
        | ok a => rfl
        | error g =>
            have hnot : e.moment.isBefore due = false := by
              cases o with
              | some _ => rw [ho.2, Moment.isBefore_irrefl]
              | none => exact Moment.isBefore_asymm (ho g he)
            simp only [hnot, Bool.false_eq_true, if_false]
      rw [List.foldl_cons, hkeep]
      exact ih fun e' he' => h e' (List.mem_cons_of_mem e he')

/-- The fault that was found so far, if there is one, comes after the moment that is due. -/
def Late (due : Moment) (found : Option (Fault × Moment)) : Prop :=
  ∀ p ∈ found, due.isBefore p.2 = true

theorem earlier_of_due_some {found : Option (Fault × Moment)} {e : Ended α} {f : Fault}
    (hfound : Late due found) (h : e.Due due (some f)) : earlier found e = some (f, due) := by
  obtain ⟨hresult, hmoment⟩ := h
  unfold earlier
  rw [hresult, hmoment]
  cases found with
  | none => rfl
  | some p =>
      have hbefore : due.isBefore p.2 = true := hfound p rfl
      simp only [hbefore, if_true]

theorem late_earlier {found : Option (Fault × Moment)} {e : Ended α} (hfound : Late due found)
    (h : e.Due due none) : Late due (earlier found e) := by
  cases he : e.result with
  | ok a =>
      rw [earlier_of_ok he]
      exact hfound
  | error g =>
      have hlate : due.isBefore e.moment = true := h g he
      intro p hp
      unfold earlier at hp
      rw [he] at hp
      cases found with
      | none =>
          cases hp
          exact hlate
      | some q =>
          dsimp only at hp
          split at hp
          · cases hp
            exact hlate
          · cases hp
            exact hfound q rfl

/-- Of pieces that are known at the moment that is due, the first one with a fault counts. -/
theorem foldl_earlier_of_late {xs : List γ} {e : Nat → γ → Ended α} {o : γ → Option Fault}
    {found : Option (Fault × Moment)} (hfound : Late due found)
    (h : ∀ i, ∀ x ∈ xs, (e i x).Due due (o x)) :
    match xs.findSome? o with
    | some f => (xs.mapIdx e).foldl earlier found = some (f, due)
    | none => Late due ((xs.mapIdx e).foldl earlier found) := by
  induction xs generalizing found e with
  | nil => exact hfound
  | cons x xs ih =>
      have hx : (e 0 x).Due due (o x) := h 0 x List.mem_cons_self
      have hxs : ∀ i, ∀ y ∈ xs, (e (i + 1) y).Due due (o y) :=
        fun i y hy => h (i + 1) y (List.mem_cons_of_mem x hy)
      rw [List.findSome?_cons, List.mapIdx_cons, List.foldl_cons]
      cases ho : o x with
      | some f =>
          rw [ho] at hx
          rw [earlier_of_due_some hfound hx]
          refine foldl_earlier_of_due fun d hd => ?_
          obtain ⟨i, hi, rfl⟩ := List.mem_mapIdx.1 hd
          exact ⟨o xs[i], hxs i _ (List.getElem_mem hi)⟩
      | none =>
          rw [ho] at hx
          exact ih (late_earlier hfound hx) hxs

/-- Work done side by side is due to fail with the first fault of its pieces. -/
theorem due_gather {xs : List γ} {w : γ → Timed α} {o : γ → Option Fault}
    (h : ∀ i, ∀ x ∈ xs, (w x (s.piece i)).Due due (o x)) :
    (gather (xs.map w) s).Due (due.later 2) (xs.findSome? o) := by
  cases hxs : xs with
  | nil => exact Ended.due_of_ok (a := []) rfl
  | cons y ys =>
      rw [← hxs]
      have hne : (xs.map w).isEmpty = false := by simp [hxs]
      have hworks : (xs.map w).mapIdx (fun i w => w (s.piece i)) =
          xs.mapIdx fun i x => w x (s.piece i) := List.ext_getElem (by simp) (by simp)
      have hnone : Late due none := fun p hp => nomatch hp
      have hfirst := foldl_earlier_of_late hnone h
      rw [← hworks, ← firstFault_eq_foldl] at hfirst
      unfold gather
      simp only [hne, Bool.false_eq_true, if_false]
      cases ho : xs.findSome? o with
      | some f =>
          rw [ho] at hfirst
          simp only [hfirst]
          exact ⟨rfl, rfl⟩
      | none =>
          rw [ho] at hfirst
          intro f hf
          cases hfault : firstFault ((xs.map w).mapIdx fun i w => w (s.piece i)) with
          | none =>
              rw [hfault] at hf
              cases hf
          | some p =>
              simp only [hfault] at hf hfirst ⊢
              rw [Moment.isBefore_later]
              exact hfirst p rfl

end Timed

end Stagecraft
