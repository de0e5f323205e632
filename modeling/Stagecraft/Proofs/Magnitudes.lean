import Stagecraft.Number.Decimal
import Stagecraft.Proofs.Words

/-!
# Magnitudes out of range

A quotient is rounded to a mantissa of 53 bits. The greatest finite number is
`(2 ^ 53 - 1) · 2 ^ 971`, and what is nearer to `2 ^ 1024` than to it becomes infinite, the middle
included since the mantissa of the finite neighbor is odd. `magnitudeBits_eq_infinityBits_iff` shows
that rounding does just that, so that a decimal numeral is infinite if it denotes the middle or more
(`isInf_toFloat_iff`), and never anything that is no number.
-/

namespace Stagecraft

namespace Binary64

/-- The least magnitude that is rounded to infinity. -/
def overflow : ℚ := (2 ^ 53 - 1 / 2) * 2 ^ 971

theorem overflow_eq : overflow = 2 ^ 1024 - 2 ^ 970 := by
  have hlow : (2 : ℚ) ^ 971 = 2 * 2 ^ 970 := pow_succ' 2 970
  have hhigh : (2 : ℚ) ^ 1024 = 2 ^ 54 * 2 ^ 970 := pow_add 2 54 970
  rw [overflow, hlow, hhigh]
  generalize (2 : ℚ) ^ 970 = x
  ring

/-! ### Exponents -/

theorem powerLe_iff {k : Int} {num den : Nat} (hden : 0 < den) :
    powerLe k num den = true ↔ (2 : ℚ) ^ k ≤ num / den := by
  have hpos : (0 : ℚ) < den := by exact_mod_cast hden
  unfold powerLe
  rw [le_div_iff₀ hpos]
  split
  · rename_i hk
    obtain ⟨n, rfl⟩ := Int.eq_ofNat_of_zero_le hk
    rw [decide_eq_true_eq, Int.toNat_natCast, zpow_natCast, mul_comm]
    exact_mod_cast Iff.rfl
  · rename_i hk
    obtain ⟨n, rfl⟩ : ∃ n : ℕ, k = -n := ⟨(-k).toNat, by omega⟩
    have hpow : (0 : ℚ) < 2 ^ n := by positivity
    rw [decide_eq_true_eq, neg_neg, Int.toNat_natCast, zpow_neg, zpow_natCast, inv_mul_le_iff₀ hpow,
      mul_comm]
    exact_mod_cast Iff.rfl

theorem log_bounds {n : Nat} (hn : 0 < n) :
    (2 : ℚ) ^ (n.log2 : ℤ) ≤ n ∧ (n : ℚ) < 2 ^ ((n.log2 : ℤ) + 1) := by
  have hlog : (n.log2 : ℤ) = Int.log 2 (n : ℚ) := by rw [Int.log_natCast, Nat.log2_eq_log_two]
  rw [hlog]
  exact ⟨Int.zpow_log_le_self (by decide) (by exact_mod_cast hn),
    Int.lt_zpow_succ_log_self (by decide) _⟩

/-- The exponent of a quotient is its logarithm. -/
theorem floorLog_eq {num den : Nat} (hnum : 0 < num) (hden : 0 < den) :
    floorLog num den = Int.log 2 ((num : ℚ) / den) := by
  have hn : (0 : ℚ) < num := by exact_mod_cast hnum
  have hd : (0 : ℚ) < den := by exact_mod_cast hden
  have hpos : (0 : ℚ) < num / den := div_pos hn hd
  obtain ⟨hnl, hnu⟩ := log_bounds hnum
  obtain ⟨hdl, hdu⟩ := log_bounds hden
  obtain ⟨k, hk⟩ : ∃ k : ℤ, k = (num.log2 : ℤ) - den.log2 := ⟨_, rfl⟩
  have hupper : Int.log 2 ((num : ℚ) / den) < k + 1 := by
    refine (Int.lt_zpow_iff_log_lt (by decide) hpos).1 ?_
    rw [div_lt_iff₀ hd]
    calc (num : ℚ) < 2 ^ ((num.log2 : ℤ) + 1) := hnu
      _ = 2 ^ (k + 1) * 2 ^ (den.log2 : ℤ) := by
          rw [← zpow_add₀ two_ne_zero]
          congr 1
          omega
      _ ≤ (2 : ℕ) ^ (k + 1) * den := by
          exact mul_le_mul_of_nonneg_left hdl (by positivity)
  have hlower : k - 1 ≤ Int.log 2 ((num : ℚ) / den) := by
    refine (Int.zpow_le_iff_le_log (by decide) hpos).1 ?_
    rw [le_div_iff₀ hd]
    calc ((2 : ℕ) : ℚ) ^ (k - 1) * den ≤ 2 ^ (k - 1) * 2 ^ ((den.log2 : ℤ) + 1) := by
          exact mul_le_mul_of_nonneg_left hdu.le (by positivity)
      _ = 2 ^ (num.log2 : ℤ) := by
          rw [← zpow_add₀ two_ne_zero]
          congr 1
          omega
      _ ≤ num := hnl
  have hself : powerLe k num den = true ↔ k ≤ Int.log 2 ((num : ℚ) / den) := by
    rw [powerLe_iff hden]
    exact Int.zpow_le_iff_le_log (b := 2) (by decide) hpos
  unfold floorLog
  dsimp only
  rw [← hk]
  split
  · rename_i h
    have := hself.1 h
    omega
  · rename_i h
    have := mt hself.2 h
    omega

/-! ### Mantissas -/

theorem roundQuotient_le {num den c : Nat} (hden : 0 < den) (h : (num : ℚ) / den ≤ c) :
    roundQuotient num den ≤ c := by
  have hpos : (0 : ℚ) < den := by exact_mod_cast hden
  rw [div_le_iff₀ hpos] at h
  norm_cast at h
  have hquotient : num / den ≤ c := by
    rw [← Nat.mul_div_cancel c hden]
    exact Nat.div_le_div_right h
  unfold roundQuotient
  dsimp only
  split
  · rename_i hup
    simp only [Bool.or_eq_true, Bool.and_eq_true, decide_eq_true_eq] at hup
    have hmod := Nat.div_add_mod num den
    rcases Nat.lt_or_ge (num / den) c with hlt | hge
    · exact hlt
    · have heq : num / den = c := le_antisymm hquotient hge
      rw [heq, mul_comm] at hmod
      omega
  · exact hquotient

/-- A quotient is rounded to at least an even number if it is at most a half below it. -/
theorem le_roundQuotient_iff {num den c : Nat} (hden : 0 < den) :
    2 * c ≤ roundQuotient num den ↔ (2 * c : ℚ) - 1 / 2 ≤ num / den := by
  have hpos : (0 : ℚ) < den := by exact_mod_cast hden
  have hclear : (2 * c : ℚ) - 1 / 2 ≤ num / den ↔ 4 * c * den ≤ 2 * num + den := by
    rw [le_div_iff₀ hpos, ← Nat.cast_le (α := ℚ)]
    push_cast
    constructor <;> intro h <;> linarith
  rw [hclear]
  have hmod := Nat.div_add_mod num den
  have hlt := Nat.mod_lt num hden
  obtain ⟨q, hq⟩ : ∃ q, q = num / den := ⟨_, rfl⟩
  rw [← hq] at hmod
  have hround : roundQuotient num den =
      if den < 2 * (num % den) ∨ 2 * (num % den) = den ∧ q % 2 = 1 then q + 1 else q := by
    simp [roundQuotient, ← hq]
  rw [hround]
  rcases lt_trichotomy (q + 1) (2 * c) with hbelow | hnext | habove
  · have hfar : den * (q + 2) ≤ den * (2 * c) := Nat.mul_le_mul_left den hbelow
    rw [mul_add, ← mul_assoc, mul_comm den 2, mul_assoc, mul_comm den c] at hfar
    refine iff_of_false ?_ ?_
    · split <;> omega
    · rw [mul_assoc]
      omega
  · have hnear : den * q + den = 2 * (c * den) := by
      rw [← mul_assoc, ← hnext]
      ring
    rw [mul_assoc]
    split
    · omega
    · omega
  · have hfar : den * (2 * c) ≤ den * q := Nat.mul_le_mul_left den (by omega)
    rw [mul_comm den (2 * c), mul_assoc] at hfar
    refine iff_of_true ?_ ?_
    · split <;> omega
    · rw [mul_assoc]
      omega

/-- The mantissa of a quotient for the exponent `q` is the rounding of a quotient scaled by it. -/
theorem exists_scaled (num : Nat) {den : Nat} (hden : 0 < den) (q : Int) :
    ∃ a b : Nat, 0 < b ∧ (a : ℚ) / b = num / den / 2 ^ q ∧
      (if 0 ≤ q then roundQuotient num (den * Nat.pow 2 q.toNat)
        else roundQuotient (num * Nat.pow 2 (-q).toNat) den) = roundQuotient a b := by
  split
  · rename_i hq
    obtain ⟨n, rfl⟩ := Int.eq_ofNat_of_zero_le hq
    refine ⟨num, den * 2 ^ n, Nat.mul_pos hden (Nat.two_pow_pos n), ?_, rfl⟩
    rw [zpow_natCast, div_div]
    push_cast
    rfl
  · rename_i hq
    obtain ⟨n, rfl⟩ : ∃ n : ℕ, q = -n := ⟨(-q).toNat, by omega⟩
    refine ⟨num * 2 ^ n, den, hden, ?_, by rw [neg_neg]; rfl⟩
    rw [zpow_neg, zpow_natCast, div_inv_eq_mul, div_mul_eq_mul_div]
    push_cast
    rfl

/-! ### Infinite magnitudes -/

theorem overflow_bounds : (2 : ℚ) ^ (1023 : ℤ) ≤ overflow ∧ overflow ≤ 2 ^ (1024 : ℤ) := by
  have hdouble : (2 : ℚ) ^ 1024 = 2 * 2 ^ 1023 := pow_succ' 2 1023
  have hpos : (0 : ℚ) ≤ 2 ^ 970 := pow_nonneg zero_le_two 970
  have hsmall : (2 : ℚ) ^ 970 ≤ 2 ^ 1023 := pow_le_pow_right₀ one_le_two (by omega)
  rw [overflow_eq, zpow_ofNat, zpow_ofNat, hdouble]
  generalize (2 : ℚ) ^ 970 = x at hpos hsmall ⊢
  generalize (2 : ℚ) ^ 1023 = y at hsmall ⊢
  constructor <;> linarith

/-- A carry into the last exponent needs the exponent to be the one before, and all bits of the
mantissa to be carried. -/
theorem magnitudeBits_eq_infinityBits_iff (num : Nat) {den : Nat} (hden : 0 < den) :
    magnitudeBits num den = infinityBits ↔ overflow ≤ (num : ℚ) / den := by
  obtain ⟨hbelow, habove⟩ := overflow_bounds
  rcases Nat.eq_zero_or_pos num with rfl | hnum
  · have hpos : (0 : ℚ) < 2 ^ (1023 : ℤ) := by positivity
    rw [Nat.cast_zero, zero_div]
    exact iff_of_false (by rw [magnitudeBits, if_pos rfl]; decide) (not_le.2 (hpos.trans_le hbelow))
  have hx : (0 : ℚ) < num / den := by positivity
  have hlower := Int.zpow_log_le_self (b := 2) (by decide) hx
  have hupper := Int.lt_zpow_succ_log_self (b := 2) (by decide) ((num : ℚ) / den)
  have hscale {i j : ℤ} (hij : i ≤ j) : (2 : ℚ) ^ i ≤ 2 ^ j := zpow_le_zpow_right₀ one_le_two hij
  unfold magnitudeBits
  rw [if_neg hnum.ne', floorLog_eq hnum hden]
  generalize Int.log 2 ((num : ℚ) / den) = k at hlower hupper ⊢
  rw [Nat.cast_ofNat] at hlower hupper
  dsimp only
  split
  · rename_i hk
    exact iff_of_true rfl (habove.trans ((hscale hk).trans hlower))
  · rename_i hk
    obtain ⟨q, hq⟩ : ∃ q, q = max (k - 52) (-1074) := ⟨_, rfl⟩
    obtain ⟨a, b, hb, hab, hround⟩ := exists_scaled num hden q
    have hpow : (0 : ℚ) < 2 ^ q := by positivity
    have hmantissa : (a : ℚ) / b ≤ (2 ^ 53 : ℕ) := by
      rw [hab, div_le_iff₀ hpow]
      calc (num : ℚ) / den ≤ 2 ^ (k + 1) := hupper.le
        _ ≤ 2 ^ (53 + q) := hscale (by omega)
        _ = (2 ^ 53 : ℕ) * 2 ^ q := by
            rw [zpow_add₀ two_ne_zero]
            norm_num
    have hm := roundQuotient_le hb hmantissa
    rw [← hq, hround, infinityBits]
    rcases (by omega : k ≤ 1022 ∨ k = 1023) with hsmall | rfl
    · refine iff_of_false ?_ (not_le.2 ?_)
      · change min _ (_ * 2 ^ 52 + _) ≠ _
        omega
      · calc (num : ℚ) / den < 2 ^ (k + 1) := hupper
          _ ≤ 2 ^ (1023 : ℤ) := hscale (by omega)
          _ ≤ overflow := hbelow
    · obtain rfl : q = 971 := hq
      have hcarry : (9218868437227405312 : Nat) ≤ (971 + 1074) * 2 ^ 52 + roundQuotient a b ↔
          2 * 2 ^ 52 ≤ roundQuotient a b := by omega
      have hinfinite : overflow ≤ (num : ℚ) / den ↔ 2 * 2 ^ 52 ≤ roundQuotient a b := by
        rw [le_roundQuotient_iff hb, hab, le_div_iff₀ hpow, overflow]
        norm_num
      rw [hinfinite, ← hcarry]
      exact min_eq_left_iff

theorem magnitudeBits_le (num den : Nat) : magnitudeBits num den ≤ infinityBits := by
  unfold magnitudeBits
  dsimp only
  split
  · exact Nat.zero_le _
  · split
    · exact le_rfl
    · exact min_le_left _ _

theorem word_of_magnitude (negative : Bool) {bits : Nat} (h : bits ≤ infinityBits) :
    (if negative then Nat.pow 2 63 + bits else bits) < 2 ^ 64 ∧
      (if negative then Nat.pow 2 63 + bits else bits) % 2 ^ 63 = bits := by
  have hsign : Nat.pow 2 63 = 2 ^ 63 := rfl
  rw [infinityBits] at h
  rw [hsign]
  split <;> omega

theorem isNaN_ofRatio (negative : Bool) (num den : Nat) :
    (ofRatio negative num den).isNaN = false := by
  obtain ⟨hlt, hmod⟩ := word_of_magnitude negative (magnitudeBits_le num den)
  rw [← Bool.not_eq_true, isNaN_iff]
  exact (parts_ofBits hlt (hmod.le.trans (magnitudeBits_le num den))).1

theorem isInf_ofRatio_iff (negative : Bool) (num : Nat) {den : Nat} (hden : 0 < den) :
    (ofRatio negative num den).isInf = true ↔ overflow ≤ (num : ℚ) / den := by
  obtain ⟨hlt, hmod⟩ := word_of_magnitude negative (magnitudeBits_le num den)
  rw [isInf_iff, ← magnitudeBits_eq_infinityBits_iff num hden]
  refine Iff.trans (parts_ofBits hlt (hmod.le.trans (magnitudeBits_le num den))).2 ?_
  rw [hmod]

end Binary64

namespace Decimal

open Binary64

theorem isInf_signed_infinity (negative : Bool) :
    (if negative then -infinity else infinity).isInf = true := by
  cases negative <;> decide

theorem isNaN_signed_infinity (negative : Bool) :
    (if negative then -infinity else infinity).isNaN = false := by
  cases negative <;> decide

theorem isInf_signed_zero (negative : Bool) :
    (if negative then -0.0 else 0.0 : Float).isInf = false := by
  cases negative <;> decide

theorem isNaN_signed_zero (negative : Bool) :
    (if negative then -0.0 else 0.0 : Float).isNaN = false := by
  cases negative <;> decide

/-- A scale that is not computed with is so large that any digit goes out of range. -/
theorem overflow_le_of_lt {digits : Nat} {scale : Int} (hdigits : 0 < digits) (h : 400 < scale) :
    overflow ≤ (digits : ℚ) * 10 ^ scale := by
  have hone : (1 : ℚ) ≤ digits := by exact_mod_cast hdigits
  calc overflow ≤ 2 ^ (1024 : ℤ) := overflow_bounds.2
    _ ≤ (2 ^ (3 : ℤ)) ^ (400 : ℤ) := by
        rw [← zpow_mul]
        exact zpow_le_zpow_right₀ one_le_two (by decide)
    _ ≤ 10 ^ (400 : ℤ) := zpow_le_zpow_left₀ (by decide) (by norm_num) (by norm_num)
    _ ≤ 10 ^ scale := zpow_le_zpow_right₀ (by norm_num) h.le
    _ ≤ (digits : ℚ) * 10 ^ scale := le_mul_of_one_le_left (by positivity) hone

/-- A scale that is not computed with is so small that the numeral is below one. -/
theorem lt_one_of_lt {digits : Nat} {scale : Int}
    (h : 400 + Nat.log2 digits / 3 + 1 < (-scale).toNat) : (digits : ℚ) * 10 ^ scale < 1 := by
  obtain ⟨n, rfl⟩ : ∃ n : ℕ, scale = -n := ⟨(-scale).toNat, by omega⟩
  rw [neg_neg, Int.toNat_natCast] at h
  have hpow : (0 : ℚ) < 10 ^ n := by positivity
  rw [zpow_neg, zpow_natCast, mul_inv_lt_iff₀ hpow, one_mul]
  have hlog : digits < 2 ^ (digits.log2 + 1) := Nat.lt_log2_self
  have hle : digits < 10 ^ n := by
    calc digits < 2 ^ (digits.log2 + 1) := hlog
      _ ≤ 2 ^ (3 * n) := Nat.pow_le_pow_right (by decide) (by omega)
      _ = 8 ^ n := by rw [pow_mul]; rfl
      _ ≤ 10 ^ n := Nat.pow_le_pow_left (by decide) n
  exact_mod_cast hle

/-- A numeral of digits is never rounded to something that is no number. -/
theorem isNaN_toFloat (negative : Bool) (digits : Nat) (scale : Int) :
    (finite negative digits scale).toFloat.isNaN = false := by
  unfold toFloat
  dsimp only
  split
  · exact isNaN_signed_zero negative
  split
  · exact isNaN_signed_infinity negative
  split
  · exact isNaN_ofRatio _ _ _
  split
  · exact isNaN_signed_zero negative
  · exact isNaN_ofRatio _ _ _

/-- A numeral of digits is rounded to infinity just if what it denotes is out of range. -/
theorem isInf_toFloat_iff (negative : Bool) (digits : Nat) (scale : Int) :
    (finite negative digits scale).toFloat.isInf = true ↔ overflow ≤ (digits : ℚ) * 10 ^ scale := by
  have hone : 1 < overflow := by
    refine lt_of_lt_of_le ?_ overflow_bounds.1
    exact one_lt_zpow₀ one_lt_two (by decide)
  unfold toFloat
  dsimp only
  split
  · rename_i hzero
    rw [isInf_signed_zero, hzero, Nat.cast_zero, zero_mul]
    exact iff_of_false nofun (by linarith)
  rename_i hzero
  have hdigits := Nat.pos_of_ne_zero hzero
  split
  · rename_i hlarge
    exact iff_of_true (isInf_signed_infinity negative) (overflow_le_of_lt hdigits hlarge)
  split
  · rename_i hscale
    obtain ⟨n, rfl⟩ := Int.eq_ofNat_of_zero_le hscale
    rw [isInf_ofRatio_iff _ _ one_pos, Int.toNat_natCast, Nat.cast_one, div_one, zpow_natCast,
      Nat.cast_mul]
    norm_num
  split
  · rename_i hsmall
    rw [isInf_signed_zero]
    have hlt := lt_one_of_lt hsmall
    exact iff_of_false nofun (by linarith)
  · rename_i hscale _
    obtain ⟨n, rfl⟩ : ∃ n : ℕ, scale = -n := ⟨(-scale).toNat, by omega⟩
    have hpow : 0 < Nat.pow 10 n := Nat.pow_pos (by decide)
    have hcast : ((Nat.pow 10 n : ℕ) : ℚ) = 10 ^ n := Nat.cast_pow 10 n
    rw [neg_neg, Int.toNat_natCast, isInf_ofRatio_iff _ _ hpow, zpow_neg, zpow_natCast, hcast,
      div_eq_mul_inv]

end Decimal

end Stagecraft
