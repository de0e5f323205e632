import Mathlib.Data.List.Forall2
import Stagecraft.Fault

/-!
# Work that may fail

Definitions are read by composed work: one step after the other, a step for each element, a step
that carries a value along. The lemmas here say how the outcome of the whole follows from the
outcomes of the parts. `FailsIn P x` says that `x` has no fault outside of `P`; it is passed on by
every composition, so that a claim about the faults of a long computation is put together from
claims about its leaves.
-/

namespace Stagecraft

namespace Attempt

variable {ε α β γ : Type}

theorem exists_eq_ok {x : Except ε α} (h : x.toOption.isSome) : ∃ a, x = .ok a := by
  cases x with
  | error e => cases h
  | ok a => exact ⟨a, rfl⟩

theorem bind_eq_ok_iff {x : Except ε α} {g : α → Except ε β} {b : β} :
    x >>= g = .ok b ↔ ∃ a, x = .ok a ∧ g a = .ok b := by
  cases x with
  | error e => simp [bind, Except.bind]
  | ok a => simp [bind, Except.bind]

theorem bind_eq_error_iff {x : Except ε α} {g : α → Except ε β} {e : ε} :
    x >>= g = .error e ↔ x = .error e ∨ ∃ a, x = .ok a ∧ g a = .error e := by
  cases x with
  | error e => simp [bind, Except.bind]
  | ok a => simp [bind, Except.bind]

/-- What comes of a composition follows from what comes of its parts, faults set aside. -/
theorem toOption_bind_congr {x y : Except ε α} {f g : α → Except ε β}
    (h : x.toOption = y.toOption) (hfg : ∀ a, (f a).toOption = (g a).toOption) :
    (x >>= f).toOption = (y >>= g).toOption := by
  cases x with
  | error e =>
      cases y with
      | error e' => rfl
      | ok b => cases h
  | ok a =>
      cases y with
      | error e' => cases h
      | ok b =>
          cases h
          exact hfg a

theorem map_eq_ok_iff {x : Except ε α} {g : α → β} {b : β} :
    x.map g = .ok b ↔ ∃ a, x = .ok a ∧ g a = b := by
  cases x <;> simp [Except.map]

theorem map_eq_error_iff {x : Except ε α} {g : α → β} {e : ε} :
    x.map g = .error e ↔ x = .error e := by
  cases x <;> simp [Except.map]

theorem mapError_eq_error_iff {ε' : Type} {x : Except ε α} {g : ε → ε'} {e : ε'} :
    x.mapError g = .error e ↔ ∃ f, x = .error f ∧ g f = e := by
  cases x <;> simp [Except.mapError]

theorem mapM_eq_ok_iff {f : α → Except ε β} {xs : List α} {ys : List β} :
    xs.mapM f = .ok ys ↔ List.Forall₂ (fun x y => f x = .ok y) xs ys := by
  induction xs generalizing ys with
  | nil =>
      rw [List.mapM_nil, List.forall₂_nil_left_iff]
      exact ⟨fun h => (Except.ok.inj h).symm, fun h => h ▸ rfl⟩
  | cons x xs ih =>
      rw [List.mapM_cons, List.forall₂_cons_left_iff, bind_eq_ok_iff]
      constructor
      · rintro ⟨y, hy, h⟩
        obtain ⟨zs, hzs, h⟩ := bind_eq_ok_iff.1 h
        exact ⟨y, zs, hy, ih.1 hzs, (Except.ok.inj h).symm⟩
      · rintro ⟨y, zs, hy, hzs, rfl⟩
        exact ⟨y, hy, bind_eq_ok_iff.2 ⟨zs, ih.2 hzs, rfl⟩⟩

theorem mapM_eq_some_iff {f : α → Option β} {xs : List α} {ys : List β} :
    xs.mapM f = some ys ↔ List.Forall₂ (fun x y => f x = some y) xs ys := by
  induction xs generalizing ys with
  | nil =>
      rw [List.mapM_nil, List.forall₂_nil_left_iff]
      exact ⟨fun h => (Option.some.inj h).symm, fun h => h ▸ rfl⟩
  | cons x xs ih =>
      rw [List.mapM_cons, List.forall₂_cons_left_iff, Option.bind_eq_bind, Option.bind_eq_some_iff]
      constructor
      · rintro ⟨y, hy, h⟩
        obtain ⟨zs, hzs, h⟩ := Option.bind_eq_some_iff.1 h
        exact ⟨y, zs, hy, ih.1 hzs, (Option.some.inj h).symm⟩
      · rintro ⟨y, zs, hy, hzs, rfl⟩
        exact ⟨y, hy, Option.bind_eq_some_iff.2 ⟨zs, ih.2 hzs, rfl⟩⟩

theorem mapM_replicate {f : α → Except ε β} {a : α} {b : β} (h : f a = .ok b) (n : Nat) :
    (List.replicate n a).mapM f = .ok (List.replicate n b) := by
  rw [mapM_eq_ok_iff]
  induction n with
  | zero => exact .nil
  | succ n ih => exact .cons h ih

theorem exists_forall₂_of_forall {R : α → β → Prop} {xs : List α} (h : ∀ x ∈ xs, ∃ y, R x y) :
    ∃ ys, List.Forall₂ R xs ys := by
  induction xs with
  | nil => exact ⟨[], .nil⟩
  | cons x xs ih =>
      obtain ⟨⟨y, hy⟩, hxs⟩ := List.forall_mem_cons.1 h
      obtain ⟨ys, hys⟩ := ih hxs
      exact ⟨y :: ys, .cons hy hys⟩

/-- What is in the first of two lists that go along with each other belongs to something in the
second. -/
theorem exists_mem_of_forall₂_left {R : α → β → Prop} {xs : List α} {ys : List β} {x : α}
    (h : List.Forall₂ R xs ys) (hx : x ∈ xs) : ∃ y ∈ ys, R x y := by
  induction h with
  | nil => cases hx
  | @cons a b as bs hab _ ih =>
      rcases List.mem_cons.1 hx with rfl | hx
      · exact ⟨b, List.mem_cons_self, hab⟩
      · obtain ⟨y, hy, hxy⟩ := ih hx
        exact ⟨y, List.mem_cons_of_mem b hy, hxy⟩

/-- What is in the second of two lists that go along with each other belongs to something in the
first. -/
theorem exists_mem_of_forall₂ {R : α → β → Prop} {xs : List α} {ys : List β} {y : β}
    (h : List.Forall₂ R xs ys) (hy : y ∈ ys) : ∃ x ∈ xs, R x y := by
  induction h with
  | nil => cases hy
  | @cons a b as bs hab _ ih =>
      rcases List.mem_cons.1 hy with rfl | hy
      · exact ⟨a, List.mem_cons_self, hab⟩
      · obtain ⟨x, hx, hxy⟩ := ih hy
        exact ⟨x, List.mem_cons_of_mem a hx, hxy⟩

/-- What holds from a first list to a second one and from there to a third one, taken together. -/
theorem forall₂_zip {R : α → β → Prop} {S : β → γ → Prop} {T : α → β × γ → Prop} {xs : List α}
    {ys : List β} {zs : List γ} (hxy : List.Forall₂ R xs ys) (hyz : List.Forall₂ S ys zs)
    (h : ∀ x y z, R x y → S y z → T x (y, z)) : List.Forall₂ T xs (ys.zip zs) := by
  induction hxy generalizing zs with
  | nil => exact .nil
  | cons hr _ ih =>
      cases hyz with
      | cons hs hyz => exact .cons (h _ _ _ hr hs) (ih hyz)

theorem forall₂_comp {R : α → β → Prop} {S : β → γ → Prop} {T : α → γ → Prop} {xs : List α}
    {ys : List β} {zs : List γ} (hxy : List.Forall₂ R xs ys) (hyz : List.Forall₂ S ys zs)
    (h : ∀ x y z, R x y → S y z → T x z) : List.Forall₂ T xs zs := by
  induction hxy generalizing zs with
  | nil =>
      cases hyz
      exact .nil
  | cons hr _ ih =>
      cases hyz with
      | cons hs hyz => exact .cons (h _ _ _ hr hs) (ih hyz)

theorem exists_append_of_forall₂ {R : α → β → Prop} {xs ys : List α} {zs : List β}
    (h : List.Forall₂ R (xs ++ ys) zs) :
    ∃ us vs, zs = us ++ vs ∧ List.Forall₂ R xs us ∧ List.Forall₂ R ys vs :=
  ⟨zs.take xs.length, zs.drop xs.length, (List.take_append_drop _ _).symm,
    (List.forall₂_take_append _ _ _ h.flip).flip, (List.forall₂_drop_append _ _ _ h.flip).flip⟩

theorem exists_getElem?_of_forall₂ {R : α → β → Prop} {xs : List α} {ys : List β}
    (h : List.Forall₂ R xs ys) {i : Nat} {x : α} (hx : xs[i]? = some x) :
    ∃ y, ys[i]? = some y ∧ R x y := by
  induction h generalizing i with
  | nil => cases hx
  | @cons _ y _ _ hxy _ ih =>
      cases i with
      | zero =>
          cases hx
          exact ⟨y, rfl, hxy⟩
      | succ i => exact ih hx

/-- What relates a first list to a third one by way of something in between has a second list in
between. -/
theorem exists_between_of_forall₂ {R : α → β → Prop} {S : β → γ → Prop} {xs : List α} {zs : List γ}
    (h : List.Forall₂ (fun x z => ∃ y, R x y ∧ S y z) xs zs) :
    ∃ ys, List.Forall₂ R xs ys ∧ List.Forall₂ S ys zs := by
  induction h with
  | nil => exact ⟨[], .nil, .nil⟩
  | cons hxz _ ih =>
      obtain ⟨y, hxy, hyz⟩ := hxz
      obtain ⟨ys, hxs, hzs⟩ := ih
      exact ⟨y :: ys, .cons hxy hxs, .cons hyz hzs⟩

theorem map_eq_of_forall₂ {f : β → α} {xs : List α} {ys : List β}
    (h : List.Forall₂ (fun x y => f y = x) xs ys) : ys.map f = xs := by
  induction h with
  | nil => rfl
  | cons hxy _ ih => rw [List.map_cons, hxy, ih]

theorem map_zipIdx_congr {R : α → β → Prop} {xs : List α} {ys : List β}
    (h : List.Forall₂ R xs ys) {f : α × Nat → γ} {g : β × Nat → γ}
    (hfg : ∀ x y i, R x y → f (x, i) = g (y, i)) (k : Nat) :
    (xs.zipIdx k).map f = (ys.zipIdx k).map g := by
  induction h generalizing k with
  | nil => rfl
  | cons hxy _ ih => simp [hfg _ _ k hxy, ih (k + 1)]

/-- What goes along with a list still does when each of its members is changed in its place. -/
theorem forall₂_mapIdx {R : α → β → Prop} {S : α → γ → Prop} {xs : List α} {ys : List β}
    (h : List.Forall₂ R xs ys) {f : Nat → β → γ} (hf : ∀ i x y, R x y → S x (f i y)) :
    List.Forall₂ S xs (ys.mapIdx f) := by
  induction h generalizing f with
  | nil => exact .nil
  | cons hxy _ ih =>
      rw [List.mapIdx_cons]
      exact .cons (hf 0 _ _ hxy) (ih fun i => hf (i + 1))

theorem mapM_of_map_eq {f : α → Except ε γ} {g : β → Except ε γ} {xs : List α} {ys : List β}
    (h : xs.map f = ys.map g) : xs.mapM f = ys.mapM g := by
  have hid {δ : Type} (u : δ → Except ε γ) (zs : List δ) : (zs.map u).mapM id = zs.mapM u :=
    List.mapM_map
  rw [← hid f, ← hid g, h]

theorem exists_mem_of_mapM_eq_error {f : α → Except ε β} {xs : List α} {e : ε}
    (h : xs.mapM f = .error e) : ∃ x ∈ xs, f x = .error e := by
  induction xs with
  | nil => cases h
  | cons x xs ih =>
      rw [List.mapM_cons, bind_eq_error_iff] at h
      rcases h with h | ⟨y, -, h⟩
      · exact ⟨x, List.mem_cons_self, h⟩
      · rcases bind_eq_error_iff.1 h with h | ⟨_, -, h⟩
        · obtain ⟨z, hz, hf⟩ := ih h
          exact ⟨z, List.mem_cons_of_mem x hz, hf⟩
        · cases h

/-- What every step keeps is kept by the whole. -/
theorem foldlM_keeps {P : β → Prop} {f : β → α → Except ε β} {xs : List α} {b c : β}
    (hb : P b) (hstep : ∀ b x d, P b → x ∈ xs → f b x = .ok d → P d)
    (h : xs.foldlM f b = .ok c) : P c := by
  induction xs generalizing b with
  | nil =>
      cases h
      exact hb
  | cons x xs ih =>
      obtain ⟨d, hd, h⟩ := bind_eq_ok_iff.1 h
      have hx : x ∈ x :: xs := List.mem_cons_self
      exact ih (hstep b x d hb hx hd)
        (fun b y d hb hy => hstep b y d hb (List.mem_cons_of_mem x hy)) h

/-- After steps that go well, the first one that does not decides. -/
theorem foldlM_of_first_error {f : β → α → Except ε β} {before after : List α} {x : α} {b c : β}
    {e : ε} (hbefore : before.foldlM f b = .ok c) (hx : f c x = .error e) :
    (before ++ x :: after).foldlM f b = .error e := by
  rw [List.foldlM_append, hbefore]
  change (f c x >>= fun d => after.foldlM f d) = .error e
  rw [hx]
  rfl

/-- Every fault that the work may have is among these. -/
def FailsIn (P : ε → Prop) (x : Except ε α) : Prop := ∀ e, x = .error e → P e

namespace FailsIn

variable {P Q : ε → Prop} {x : Except ε α}

theorem ok (a : α) : FailsIn P (.ok a : Except ε α) := by
  intro e h
  cases h

theorem error {e : ε} (h : P e) : FailsIn P (.error e : Except ε α) := by
  intro e' h'
  cases h'
  exact h

theorem mono (hx : FailsIn P x) (h : ∀ e, P e → Q e) : FailsIn Q x :=
  fun e he => h e (hx e he)

theorem bind {g : α → Except ε β} (hx : FailsIn P x)
    (hg : ∀ a, x = .ok a → FailsIn P (g a)) : FailsIn P (x >>= g) := by
  intro e h
  rcases bind_eq_error_iff.1 h with h | ⟨a, ha, h⟩
  · exact hx e h
  · exact hg a ha e h

theorem map {g : α → β} (hx : FailsIn P x) : FailsIn P (x.map g) :=
  fun e h => hx e (map_eq_error_iff.1 h)

theorem mapM {f : α → Except ε β} {xs : List α} (h : ∀ x ∈ xs, FailsIn P (f x)) :
    FailsIn P (xs.mapM f) := by
  intro e he
  obtain ⟨x, hx, hf⟩ := exists_mem_of_mapM_eq_error he
  exact h x hx e hf

theorem foldlM {f : β → α → Except ε β} {xs : List α} {b : β}
    (h : ∀ b, ∀ x ∈ xs, FailsIn P (f b x)) : FailsIn P (xs.foldlM f b) := by
  induction xs generalizing b with
  | nil => exact ok b
  | cons x xs ih =>
      rw [List.foldlM_cons]
      exact (h b x List.mem_cons_self).bind fun d _ =>
        ih fun d y hy => h d y (List.mem_cons_of_mem x hy)

end FailsIn

end Attempt

end Stagecraft
