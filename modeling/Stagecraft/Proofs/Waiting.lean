import Stagecraft.Proofs.Attempt
import Stagecraft.Schedule.Timed

/-!
# Work that waits, by its results

When work starts, and as which piece of other work, has a say in which of several faults comes
first, and in nothing else: work that goes well has the same value wherever it starts (`Steady`).
With that, work done side by side goes well exactly when each piece does, and the faults of work are
those of its pieces (`FailsIn`). Waiting for loads that cannot fail is only a matter of time.
-/

namespace Stagecraft

namespace Timed

variable {α β : Type} {s : Start}

@[simp] theorem lift_result (r : Except Fault α) (s : Start) :
    ((liftM r : Timed α) s).result = r := rfl

@[simp] theorem pure_result (a : α) (s : Start) : ((pure a : Timed α) s).result = .ok a := rfl

@[simp] theorem load_result (delay : Start → Nat) (r : Except Fault α) (s : Start) :
    (load delay r s).result = r := rfl

@[simp] theorem task_result (before after : Nat) (a : Timed α) (s : Start) :
    (task before after a s).result = (a (s.later before)).result := rfl

@[simp] theorem notice_result (n : Notice) (s : Start) : (notice n s).result = .ok () := rfl

theorem bind_result (a : Timed α) (f : α → Timed β) (s : Start) :
    ((a >>= f) s).result =
      match (a s).result with
      | .ok x => (f x (s.resume (a s).moment)).result
      | .error e => .error e := by
  change (andThen a f s).result = _
  unfold andThen
  dsimp only
  cases (a s).result <;> rfl

theorem bind_eq_ok_iff {a : Timed α} {f : α → Timed β} {b : β} :
    ((a >>= f) s).result = .ok b ↔
      ∃ x, (a s).result = .ok x ∧ (f x (s.resume (a s).moment)).result = .ok b := by
  rw [bind_result]
  cases (a s).result <;> simp

theorem bind_eq_error_iff {a : Timed α} {f : α → Timed β} {e : Fault} :
    ((a >>= f) s).result = .error e ↔
      (a s).result = .error e ∨
        ∃ x, (a s).result = .ok x ∧ (f x (s.resume (a s).moment)).result = .error e := by
  rw [bind_result]
  cases (a s).result <;> simp

/-- The earlier one of a fault that was found and the one of a piece of work. -/
def earlier (found : Option (Fault × Moment)) (e : Ended α) : Option (Fault × Moment) :=
  match e.result, found with
  | .ok _, _ => found
  | .error f, none => some (f, e.moment)
  | .error f, some (g, m) => if e.moment.isBefore m then some (f, e.moment) else some (g, m)

theorem firstFault_eq_foldl (es : List (Ended α)) : firstFault es = es.foldl earlier none := rfl

theorem earlier_of_ok {found : Option (Fault × Moment)} {e : Ended α} {a : α}
    (h : e.result = .ok a) : earlier found e = found := by
  simp [earlier, h]

theorem isSome_earlier_of_error {found : Option (Fault × Moment)} {e : Ended α} {f : Fault}
    (h : e.result = .error f) : (earlier found e).isSome := by
  unfold earlier
  rw [h]
  cases found with
  | none => rfl
  | some g =>
      dsimp only
      split <;> rfl

theorem isSome_foldl_earlier {found : Option (Fault × Moment)} (es : List (Ended α))
    (h : found.isSome) : (es.foldl earlier found).isSome := by
  induction es generalizing found with
  | nil => exact h
  | cons e es ih =>
      refine ih ?_
      cases he : e.result with
      | error f => exact isSome_earlier_of_error he
      | ok a => rwa [earlier_of_ok he]

/-- Without a fault the values are those of the pieces, in order. -/
theorem forall₂_result_iff {es : List (Ended α)} {as : List α} :
    List.Forall₂ (fun e a => e.result = .ok a) es as ↔ firstFault es = none ∧ values es = as := by
  rw [firstFault_eq_foldl]
  induction es generalizing as with
  | nil => simp [values, eq_comm]
  | cons e es ih =>
      rw [List.forall₂_cons_left_iff, List.foldl_cons]
      cases he : e.result with
      | error f =>
          -- A fault that has been found may give way to an earlier one, but is never lost.
          have hfirst : (earlier none e).isSome := isSome_earlier_of_error he
          have hsome := isSome_foldl_earlier es hfirst
          constructor
          · rintro ⟨a, _, h, -⟩
            cases h
          · rintro ⟨h, -⟩
            simp [h] at hsome
      | ok a =>
          have hvalues : values (e :: es) = a :: values es := by
            simp [values, he, Except.toOption]
          rw [earlier_of_ok he, hvalues]
          constructor
          · rintro ⟨b, bs, hb, hbs, rfl⟩
            cases hb
            obtain ⟨hnone, rfl⟩ := ih.1 hbs
            exact ⟨hnone, rfl⟩
          · rintro ⟨hnone, rfl⟩
            exact ⟨a, values es, rfl, ih.2 ⟨hnone, rfl⟩, rfl⟩

theorem earlier_eq_some {found : Option (Fault × Moment)} {e : Ended α} {f : Fault} {m : Moment}
    (h : earlier found e = some (f, m)) : found = some (f, m) ∨ e.result = .error f := by
  unfold earlier at h
  cases he : e.result with
  | ok a =>
      rw [he] at h
      exact .inl h
  | error g =>
      rw [he] at h
      cases found with
      | none =>
          cases h
          exact .inr rfl
      | some g' =>
          dsimp only at h
          split at h
          · cases h
            exact .inr rfl
          · exact .inl h

/-- The first fault is the fault of a piece. -/
theorem exists_mem_of_foldl_earlier {found : Option (Fault × Moment)} {es : List (Ended α)}
    {f : Fault} {m : Moment} (h : es.foldl earlier found = some (f, m)) :
    found = some (f, m) ∨ ∃ e ∈ es, e.result = .error f := by
  induction es generalizing found with
  | nil => exact .inl h
  | cons e es ih =>
      rcases ih h with h | ⟨e', he', h⟩
      · exact (earlier_eq_some h).imp_right fun h => ⟨e, List.mem_cons_self, h⟩
      · exact .inr ⟨e', List.mem_cons_of_mem e he', h⟩

/-- How the pieces of work end that are done side by side. -/
def ends (works : List (Timed α)) (s : Start) : List (Ended α) :=
  works.mapIdx fun i w => w (s.piece i)

theorem mem_ends {works : List (Timed α)} {e : Ended α} (h : e ∈ ends works s) :
    ∃ w ∈ works, ∃ t, w t = e := by
  obtain ⟨i, hi, rfl⟩ := List.mem_mapIdx.1 h
  exact ⟨works[i], List.getElem_mem hi, _, rfl⟩

theorem forall₂_of_mapIdx {γ δ ε : Type} {f : Nat → γ → δ} {R : δ → ε → Prop} {S : γ → ε → Prop}
    {xs : List γ} {ys : List ε} (h : ∀ i, ∀ x ∈ xs, ∀ y, R (f i x) y → S x y)
    (hxs : List.Forall₂ R (xs.mapIdx f) ys) : List.Forall₂ S xs ys := by
  induction xs generalizing f ys with
  | nil => simpa using hxs
  | cons x xs ih =>
      rw [List.mapIdx_cons, List.forall₂_cons_left_iff] at hxs
      obtain ⟨y, ys, hy, hys, rfl⟩ := hxs
      exact .cons (h 0 x List.mem_cons_self y hy)
        (ih (fun i z hz => h (i + 1) z (List.mem_cons_of_mem x hz)) hys)

theorem forall₂_mapIdx_of {γ δ ε : Type} {f : Nat → γ → δ} {R : δ → ε → Prop} {S : γ → ε → Prop}
    {xs : List γ} {ys : List ε} (h : ∀ i, ∀ x ∈ xs, ∀ y, S x y → R (f i x) y)
    (hxs : List.Forall₂ S xs ys) : List.Forall₂ R (xs.mapIdx f) ys := by
  induction hxs generalizing f with
  | nil => exact .nil
  | @cons x y xs ys hy hys ih =>
      rw [List.mapIdx_cons]
      exact .cons (h 0 x List.mem_cons_self y hy)
        (ih fun i z hz => h (i + 1) z (List.mem_cons_of_mem x hz))

/-- Work side by side has a result as if the fault that came first were raised at the end. -/
theorem gather_result (works : List (Timed α)) (s : Start) :
    (gather works s).result =
      (firstFault (ends works s)).elim (.ok (values (ends works s))) fun f => .error f.1 := by
  unfold gather ends
  cases works with
  | nil => rfl
  | cons w ws =>
      rw [List.isEmpty_cons, if_neg Bool.false_ne_true]
      dsimp only
      cases firstFault ((w :: ws).mapIdx fun i w => w (s.piece i)) <;> rfl

/-- Work side by side goes well when each piece does. -/
theorem gather_eq_ok_iff {works : List (Timed α)} {as : List α} :
    (gather works s).result = .ok as ↔
      List.Forall₂ (fun e a => e.result = .ok a) (ends works s) as := by
  rw [forall₂_result_iff, gather_result]
  cases firstFault (ends works s) <;> simp

/-- What goes well side by side goes well somewhere. -/
theorem forall₂_of_gather {works : List (Timed α)} {as : List α}
    (h : (gather works s).result = .ok as) :
    List.Forall₂ (fun w a => ∃ t, (w t).result = .ok a) works as :=
  forall₂_of_mapIdx (fun _ _ _ _ ha => ⟨_, ha⟩) (gather_eq_ok_iff.1 h)

theorem exists_mem_of_gather_eq_error {works : List (Timed α)} {f : Fault}
    (h : (gather works s).result = .error f) : ∃ w ∈ works, ∃ t, (w t).result = .error f := by
  rw [gather_result] at h
  cases hf : firstFault (ends works s) with
  | none =>
      rw [hf] at h
      cases h
  | some g =>
      rw [hf] at h
      cases h
      rcases exists_mem_of_foldl_earlier hf with h | ⟨e, he, h⟩
      · cases h
      · obtain ⟨w, hw, t, rfl⟩ := mem_ends he
        exact ⟨w, hw, t, h⟩

theorem both_eq_ok_iff {a : Timed α} {b : Timed β} {p : α × β} :
    (both a b s).result = .ok p ↔
      (a (s.piece 0)).result = .ok p.1 ∧ (b (s.piece 1)).result = .ok p.2 := by
  obtain ⟨x, y⟩ := p
  unfold both
  cases ha : (a (s.piece 0)).result with
  | ok x' => cases hb : (b (s.piece 1)).result <;> simp [ha, hb]
  | error f =>
      cases hb : (b (s.piece 1)).result with
      | ok y' => simp [ha, hb]
      | error g =>
          simp only [ha, hb]
          split <;> simp

theorem both_eq_error {a : Timed α} {b : Timed β} {f : Fault}
    (h : (both a b s).result = .error f) :
    (a (s.piece 0)).result = .error f ∨ (b (s.piece 1)).result = .error f := by
  unfold both at h
  cases ha : (a (s.piece 0)).result with
  | ok x =>
      cases hb : (b (s.piece 1)).result with
      | ok y => simp [ha, hb] at h
      | error g => simpa [ha, hb] using h
  | error e =>
      cases hb : (b (s.piece 1)).result with
      | ok y => simpa [ha, hb] using h
      | error g =>
          simp only [ha, hb] at h
          split at h
          · cases h
            exact .inr rfl
          · cases h
            exact .inl rfl

@[simp] theorem tracked_result (a : Timed α) (s : Start) :
    (tracked a s).result = (a (s.later 1)).result := rfl

/-- What goes well has the same value wherever it starts. -/
def Steady (w : Timed α) : Prop := ∀ a s t, (w s).result = .ok a → (w t).result = .ok a

namespace Steady

theorem lift (r : Except Fault α) : Steady (liftM r : Timed α) := fun _ _ _ h => h

theorem pure (a : α) : Steady (pure a : Timed α) := fun _ _ _ h => h

theorem load (delay : Start → Nat) (r : Except Fault α) : Steady (load delay r) := fun _ _ _ h => h

theorem notice (n : Notice) : Steady (notice n) := fun _ _ _ h => h

theorem task {a : Timed α} (ha : Steady a) (before after : Nat) : Steady (task before after a) :=
  fun x _ _ h => ha x _ _ h

theorem tracked {a : Timed α} (ha : Steady a) : Steady (tracked a) := fun x _ _ h => ha x _ _ h

theorem bind {a : Timed α} {f : α → Timed β} (ha : Steady a) (hf : ∀ x, Steady (f x)) :
    Steady (a >>= f) := by
  intro b s t h
  obtain ⟨x, hx, h⟩ := bind_eq_ok_iff.1 h
  exact bind_eq_ok_iff.2 ⟨x, ha x s t hx, hf x b _ _ h⟩

/-- What goes well somewhere goes well from the start. -/
theorem run {a : Timed α} (ha : Steady a) {x : α} {s : Start} (h : (a s).result = .ok x) :
    a.run.1 = .ok x := ha x s {} h

/-- Steady work side by side goes well when each piece does by itself. -/
theorem gather_eq_ok_iff {works : List (Timed α)} (h : ∀ w ∈ works, Steady w) {as : List α}
    {s : Start} :
    (gather works s).result = .ok as ↔ List.Forall₂ (fun w a => w.run.1 = .ok a) works as := by
  rw [Timed.gather_eq_ok_iff]
  exact ⟨forall₂_of_mapIdx fun i w hw a ha => (h w hw).run ha,
    forall₂_mapIdx_of fun i w hw a ha => h w hw a _ _ ha⟩

theorem gather {works : List (Timed α)} (h : ∀ w ∈ works, Steady w) : Steady (gather works) :=
  fun _ _ _ has => (gather_eq_ok_iff h).2 ((gather_eq_ok_iff h).1 has)

theorem both {a : Timed α} {b : Timed β} (ha : Steady a) (hb : Steady b) : Steady (both a b) := by
  intro p s t h
  obtain ⟨hx, hy⟩ := both_eq_ok_iff.1 h
  exact both_eq_ok_iff.2 ⟨ha _ _ _ hx, hb _ _ _ hy⟩

theorem forIn {f : α → β → Timed (ForInStep β)} {as : List α} {b : β}
    (h : ∀ a b, Steady (f a b)) : Steady (forIn as b f) := by
  induction as generalizing b with
  | nil => exact pure b
  | cons a as ih =>
      rw [List.forIn_cons]
      refine (h a b).bind fun r => ?_
      cases r with
      | done c => exact pure c
      | yield c => exact ih

end Steady

/-- Wherever the work starts, every fault that it may have is among these. -/
def FailsIn (P : Fault → Prop) (w : Timed α) : Prop := ∀ s, Attempt.FailsIn P (w s).result

namespace FailsIn

variable {P : Fault → Prop}

theorem lift {r : Except Fault α} (h : Attempt.FailsIn P r) : FailsIn P (liftM r : Timed α) :=
  fun _ => h

theorem pure (a : α) : FailsIn P (pure a : Timed α) := fun _ => .ok a

theorem load {r : Except Fault α} (delay : Start → Nat) (h : Attempt.FailsIn P r) :
    FailsIn P (load delay r) := fun _ => h

theorem notice (n : Notice) : FailsIn P (notice n) := fun _ => .ok ()

theorem task {a : Timed α} (ha : FailsIn P a) (before after : Nat) :
    FailsIn P (task before after a) := fun _ => ha _

theorem tracked {a : Timed α} (ha : FailsIn P a) : FailsIn P (tracked a) := fun _ => ha _

theorem bind {a : Timed α} {f : α → Timed β} (ha : FailsIn P a)
    (hf : ∀ x s, (a s).result = .ok x → FailsIn P (f x)) : FailsIn P (a >>= f) := by
  intro s e h
  rcases bind_eq_error_iff.1 h with h | ⟨x, hx, h⟩
  · exact ha s e h
  · exact hf x s hx _ e h

theorem gather {works : List (Timed α)} (h : ∀ w ∈ works, FailsIn P w) :
    FailsIn P (gather works) := by
  intro s e he
  obtain ⟨w, hw, t, he⟩ := exists_mem_of_gather_eq_error he
  exact h w hw t e he

theorem both {a : Timed α} {b : Timed β} (ha : FailsIn P a) (hb : FailsIn P b) :
    FailsIn P (both a b) := by
  intro s e h
  rcases both_eq_error h with h | h
  · exact ha _ e h
  · exact hb _ e h

/-- Work for each element of a list, which goes on to the next one or ends. -/
theorem forIn {f : α → β → Timed (ForInStep β)} {as : List α} {b : β}
    (h : ∀ a ∈ as, ∀ b, FailsIn P (f a b)) : FailsIn P (forIn as b f) := by
  induction as generalizing b with
  | nil => exact pure b
  | cons a as ih =>
      rw [List.forIn_cons]
      refine (h a List.mem_cons_self b).bind fun r _ _ => ?_
      cases r with
      | done c => exact pure c
      | yield c => exact ih fun d hd => h d (List.mem_cons_of_mem a hd)

theorem foldlM {f : β → α → Timed β} {as : List α} {b : β}
    (h : ∀ b, ∀ a ∈ as, FailsIn P (f b a)) : FailsIn P (as.foldlM f b) := by
  induction as generalizing b with
  | nil => exact pure b
  | cons a as ih =>
      rw [List.foldlM_cons]
      exact (h b a List.mem_cons_self).bind fun c _ _ =>
        ih fun c d hd => h c d (List.mem_cons_of_mem a hd)

/-- Waiting for loads fails as one of them does. -/
theorem complete {loads : List Load} (h : ∀ u ∈ loads, ∀ f, u.fault = some f → P f) :
    FailsIn P (complete loads) := by
  unfold Timed.complete
  generalize loads.length = rounds
  induction rounds with
  | zero => exact fun _ => .ok ()
  | succ rounds ih =>
      intro s e he
      unfold completeIn at he
      dsimp only at he
      split at he
      · cases he
      · split at he
        · rename_i f at' hfirst
          cases he
          rcases exists_mem_of_foldl_earlier hfirst with hnone | ⟨e, hmem, he⟩
          · cases hnone
          · obtain ⟨u, hu, rfl⟩ := List.mem_map.1 hmem
            cases hfault : u.fault with
            | none => simp [hfault] at he
            | some g =>
                obtain rfl : g = _ := by simpa [hfault] using he
                exact h u (List.mem_filter.1 hu).1 g hfault
        · exact ih _ e he

end FailsIn

theorem complete_result_of_faultless {loads : List Load} (h : ∀ u ∈ loads, u.fault = none)
    (s : Start) : (complete loads s).result = .ok () := by
  cases hresult : (complete loads s).result with
  | ok u => rfl
  | error f =>
      have hnever : FailsIn (fun _ => False) (complete loads) :=
        FailsIn.complete fun u hu f hf => by rw [h u hu] at hf; cases hf
      exact (hnever s f hresult).elim

end Timed

end Stagecraft
