import Mathlib
import Stagecraft.Animation.Animator

/-!
# The frames of a timeline

The scan of a timeline subtracts the durations that it passes, so that after `k` frames it stands
`elapsed k` before the position it came with. It stops at the first timed frame that ends behind the
position. The last frame ends with the whole duration, which is behind every position that the scan
is asked for; so there is such a frame, whatever signs the durations have.

Times are read as exact numbers here, where an animator scans with binary64 ones.
-/

namespace Stagecraft

/-- The remainder of a division whose quotient is rounded down. -/
instance : FloorMod ℚ := ⟨fun x y => x - y * ⌊x / y⌋⟩

namespace FloorMod

variable {x y : ℚ}

theorem modulo_eq_fract (x : ℚ) (hy : 0 < y) : modulo x y = Int.fract (x / y) * y := by
  have hx : x / y * y = x := div_mul_cancel₀ x hy.ne'
  rw [Int.fract, sub_mul, hx, mul_comm (_ : ℚ) y]
  rfl

theorem modulo_nonneg (hy : 0 < y) : 0 ≤ modulo x y := by
  rw [modulo_eq_fract x hy]
  exact mul_nonneg (Int.fract_nonneg _) hy.le

theorem modulo_lt (hy : 0 < y) : modulo x y < y := by
  rw [modulo_eq_fract x hy]
  exact mul_lt_of_lt_one_left hy (Int.fract_lt_one _)

theorem modulo_add_mul (x : ℚ) (hy : 0 < y) (n : ℤ) : modulo (x + n * y) y = modulo x y := by
  rw [modulo_eq_fract _ hy, modulo_eq_fract _ hy, add_div, mul_div_cancel_right₀ _ hy.ne',
    Int.fract_add_intCast]

end FloorMod

namespace Timeline

variable {t : Timeline ℚ} {p : ℚ} {k : Nat}

/-- What the timed ones among the first frames take together. -/
def elapsed (t : Timeline ℚ) (k : Nat) : ℚ := (t.take k).reduceOption.sum

@[simp] theorem elapsed_zero (t : Timeline ℚ) : t.elapsed 0 = 0 := rfl

@[simp] theorem elapsed_cons_succ (d : Option ℚ) (t : Timeline ℚ) (k : Nat) :
    elapsed (d :: t) (k + 1) = d.getD 0 + t.elapsed k := by
  cases d with
  | none => simp [elapsed]
  | some d => simp [elapsed]

theorem duration_eq_sum (t : Timeline ℚ) : t.duration = t.reduceOption.sum :=
  List.sum_eq_foldl.symm

theorem elapsed_succ_of_timed {d : ℚ} (hk : t[k]? = some (some d)) :
    t.elapsed (k + 1) = t.elapsed k + d := by
  rw [elapsed, elapsed, List.take_add_one, hk, List.reduceOption_append, List.sum_append]
  simp

theorem elapsed_mono (h : ∀ d, some d ∈ t → 0 < d) : Monotone t.elapsed := by
  refine monotone_nat_of_le_succ fun k => ?_
  have hnonneg : 0 ≤ (t[k]?.toList.reduceOption).sum := by
    refine List.sum_nonneg fun d hd => ?_
    obtain ⟨o, ho, rfl⟩ := List.mem_filterMap.1 hd
    exact (h d (List.mem_of_getElem? (Option.mem_toList.1 ho))).le
  rw [elapsed, elapsed, List.take_add_one, List.reduceOption_append, List.sum_append]
  linarith

/-- The first timed frame that ends behind a position. -/
structure Reaches (t : Timeline ℚ) (p : ℚ) (k : Nat) : Prop where
  timed : ∃ d, t[k]? = some (some d)
  ends : p < t.elapsed (k + 1)
  passed : ∀ j < k, ∀ d, t[j]? = some (some d) → t.elapsed (j + 1) ≤ p

theorem reaches_zero_iff {d : Option ℚ} :
    Reaches (d :: t) p 0 ↔ ∃ x, d = some x ∧ p < x := by
  constructor
  · rintro ⟨⟨x, hx⟩, hends, -⟩
    cases hx
    exact ⟨x, rfl, by simpa using hends⟩
  · rintro ⟨x, rfl, hends⟩
    exact ⟨⟨x, rfl⟩, by simpa using hends, fun j hj => absurd hj j.not_lt_zero⟩

/-- A frame that is not the first one is reached from behind the first one. -/
theorem reaches_succ_iff {d : Option ℚ} :
    Reaches (d :: t) p (k + 1) ↔ (∀ x, d = some x → x ≤ p) ∧ t.Reaches (p - d.getD 0) k := by
  constructor
  · rintro ⟨htimed, hends, hpassed⟩
    rw [elapsed_cons_succ] at hends
    refine ⟨fun x hx => ?_, htimed, by linarith, fun j hj x hx => ?_⟩
    · subst hx
      simpa using hpassed 0 k.succ_pos x rfl
    · have hj := hpassed (j + 1) (Nat.succ_lt_succ hj) x hx
      rw [elapsed_cons_succ] at hj
      linarith
  · rintro ⟨hfirst, htimed, hends, hpassed⟩
    refine ⟨htimed, by rw [elapsed_cons_succ]; linarith, fun j hj x hx => ?_⟩
    cases j with
    | zero =>
        cases hx
        simpa using hfirst x rfl
    | succ j =>
        have hj := hpassed j (Nat.lt_of_succ_lt_succ hj) x hx
        rw [elapsed_cons_succ]
        linarith

theorem locate?_eq_some_iff : locate? p t = some k ↔ t.Reaches p k := by
  induction t generalizing p k with
  | nil =>
      constructor
      · intro h
        cases h
      · rintro ⟨⟨d, hd⟩, -, -⟩
        cases hd
  | cons d t ih =>
      have hrest : (locate? (p - d.getD 0) t).map (· + 1) = some k ↔
          ∃ j, Reaches t (p - d.getD 0) j ∧ j + 1 = k := by
        simp only [Option.map_eq_some_iff, ih]
      cases d with
      | none =>
          rw [Option.getD_none, sub_zero] at hrest
          rw [locate?, hrest]
          cases k with
          | zero => simp [reaches_zero_iff]
          | succ k => simp [reaches_succ_iff]
      | some d =>
          rw [Option.getD_some] at hrest
          rw [locate?]
          split
          · rename_i hp
            cases k with
            | zero => simpa [reaches_zero_iff] using hp
            | succ k => simp [reaches_succ_iff, hp]
          · rename_i hp
            rw [hrest]
            cases k with
            | zero => simpa [reaches_zero_iff] using hp
            | succ k => simpa [reaches_succ_iff] using fun _ => not_lt.1 hp

/-- A frame is reached from every position that the timeline is long enough for. -/
theorem exists_reaches (hp : 0 ≤ p) (htotal : p < t.reduceOption.sum) : ∃ k, t.Reaches p k := by
  induction t generalizing p with
  | nil => exact absurd htotal (not_lt.2 hp)
  | cons d t ih =>
      by_cases hd : ∃ x, d = some x ∧ p < x
      · exact ⟨0, reaches_zero_iff.2 hd⟩
      · have hfirst (x : ℚ) (hx : d = some x) : x ≤ p := not_lt.1 fun h => hd ⟨x, hx, h⟩
        have hrest : 0 ≤ p - d.getD 0 ∧ p - d.getD 0 < t.reduceOption.sum := by
          cases d with
          | none => simpa using ⟨hp, htotal⟩
          | some x =>
              have hsum : p < x + t.reduceOption.sum := htotal
              have hx := hfirst x rfl
              rw [Option.getD_some]
              constructor <;> linarith
        obtain ⟨k, hk⟩ := ih hrest.1 hrest.2
        exact ⟨k + 1, reaches_succ_iff.2 ⟨hfirst, hk⟩⟩

/-- What is passed before a frame is reached does not lie behind the position. -/
theorem Reaches.elapsed_le (h : t.Reaches p k) (hp : 0 ≤ p) : t.elapsed k ≤ p := by
  induction k generalizing t p with
  | zero => exact hp
  | succ k ih =>
      cases t with
      | nil =>
          obtain ⟨d, hd⟩ := h.timed
          cases hd
      | cons d t =>
          obtain ⟨hfirst, hrest⟩ := reaches_succ_iff.1 h
          have hp' : 0 ≤ p - d.getD 0 := by
            cases d with
            | none => simpa using hp
            | some x => simpa using hfirst x rfl
          have hk := ih hrest hp'
          rw [elapsed_cons_succ]
          linarith

/-- With positive durations the frame that is reached is the only one that holds the position. -/
theorem Reaches.holds_iff (h : t.Reaches p k) (hp : 0 ≤ p) (hpos : ∀ d, some d ∈ t → 0 < d)
    {j : Nat} {d : ℚ} (hj : t[j]? = some (some d)) :
    t.elapsed (j + 1) - d ≤ p ∧ p < t.elapsed (j + 1) ↔ j = k := by
  rw [elapsed_succ_of_timed hj, add_sub_cancel_right, ← elapsed_succ_of_timed hj]
  constructor
  · rintro ⟨hstart, hend⟩
    rcases lt_trichotomy j k with hjk | hjk | hjk
    · exact absurd (h.passed j hjk d hj) (not_le.2 hend)
    · exact hjk
    · exact absurd ((elapsed_mono hpos hjk).trans hstart) (not_le.2 h.ends)
  · rintro rfl
    exact ⟨h.elapsed_le hp, h.ends⟩

theorem indexAt_of_pos (h : 0 < t.reduceOption.sum) (time : ℚ) :
    t.indexAt time =
      (locate? (FloorMod.modulo time t.reduceOption.sum) t).getD (t.length - 1) := by
  have hne : ¬ t.isEmpty := by
    intro hnil
    rw [List.isEmpty_iff.1 hnil] at h
    exact absurd h (lt_irrefl 0)
  rw [indexAt, if_neg hne, duration_eq_sum, if_neg (not_le.2 h)]

theorem indexAt_of_nonpos (h : t.reduceOption.sum ≤ 0) (time : ℚ) : t.indexAt time = 0 := by
  rw [indexAt, duration_eq_sum, if_pos h, ite_self]

/-- With a positive duration, the frame that is shown is the first timed one that ends behind the
time, counted modulo the duration; there is always one, so that the last frame is never shown for
want of another. With positive durations only it is the one frame that holds the position. The same
frame is shown a number of durations later or earlier. Without a positive duration the first frame
is shown. -/
theorem indexAt_of_time (t : Timeline ℚ) (time offset : ℚ) :
    let total := t.reduceOption.sum
    let p := FloorMod.modulo (time + offset) total
    let k := t.indexAt (time + offset)
    (0 < total →
      (0 ≤ p ∧ p < total ∧ ∃ n : ℤ, time + offset = n * total + p) ∧
      locate? p t = some k ∧ (∀ j, t.Reaches p j ↔ j = k) ∧
      ((∀ d, some d ∈ t → 0 < d) → ∀ j d, t[j]? = some (some d) →
        (t.elapsed (j + 1) - d ≤ p ∧ p < t.elapsed (j + 1) ↔ j = k)) ∧
      ∀ n : ℤ, t.indexAt (time + n * total + offset) = k) ∧
    (total ≤ 0 ∨ (∀ d ∈ t, d = none) → k = 0) := by
  intro total p k
  constructor
  · intro htotal
    have hp : 0 ≤ p := FloorMod.modulo_nonneg htotal
    have hlt : p < total := FloorMod.modulo_lt htotal
    obtain ⟨i, hi⟩ := exists_reaches hp hlt
    have hki : k = i := by
      have hlocate : locate? p t = some i := locate?_eq_some_iff.2 hi
      have hindex : k = (locate? p t).getD (t.length - 1) := indexAt_of_pos htotal _
      rw [hindex, hlocate, Option.getD_some]
    have hk : t.Reaches p k := hki ▸ hi
    refine ⟨⟨hp, hlt, ⌊(time + offset) / total⌋, ?_⟩, locate?_eq_some_iff.2 hk, fun j => ?_,
      fun hpos j d hj => hk.holds_iff hp hpos hj, fun n => ?_⟩
    · change time + offset = _ + (time + offset - total * ⌊(time + offset) / total⌋)
      ring
    · rw [← locate?_eq_some_iff, locate?_eq_some_iff.2 hk, Option.some_inj, eq_comm]
    · have htime : time + n * total + offset = time + offset + n * total := by ring
      rw [htime, indexAt_of_pos htotal, FloorMod.modulo_add_mul _ htotal]
      exact (indexAt_of_pos htotal _).symm
  · intro h
    refine indexAt_of_nonpos ?_ _
    rcases h with h | h
    · exact h
    · have hnil : t.reduceOption = [] := by
        rw [List.reduceOption_eq_nil_iff]
        exact ⟨t.length, List.eq_replicate_of_mem h⟩
      exact (congrArg List.sum hnil).le

/-- A negative duration puts the end of a frame before that of an earlier one. -/
theorem indexAt_of_time_mixed :
    let t : Timeline ℚ := [some 1, none, some (-2), some 3]
    0 < t.reduceOption.sum ∧ t.indexAt (3 + 1 / 2) = 3 ∧ t.indexAt (3 + 5 * 2 + 1 / 2) = 3 := by
  intro t
  have hpos : 0 < t.reduceOption.sum := by decide +kernel
  have htotal : t.reduceOption.sum = 2 := by decide +kernel
  have hthree : t.indexAt (3 + 1 / 2) = 3 := by decide +kernel
  obtain ⟨-, -, -, -, hperiod⟩ := (indexAt_of_time t 3 (1 / 2)).1 hpos
  refine ⟨hpos, hthree, ?_⟩
  have hlater := hperiod 5
  rwa [htotal, hthree] at hlater

end Timeline

end Stagecraft
