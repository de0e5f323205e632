import Stagecraft.Proofs.Words

/-!
# Numbers read as rationals

A finite number is a rational (`isSome_rational?_iff`), and that is all there is to it but for the
sign of zero. Two numbers agree if they read as the same rational; infinities and what is no number
agree with themselves alone. Adding a number that reads as zero leaves what agrees with the number
before (`agree_add`).
-/

namespace Stagecraft

namespace Binary64

open Float.Model (UnpackedFloat)

/-- The rational that exact parts denote. -/
def Parts.rational? : Parts → Option ℚ
  | .finite negative m e => some ((if negative then -1 else 1) * m * 2 ^ e)
  | .infinite _ => none
  | .nan => none

/-- The rational that a number is. -/
def rational? (x : Float) : Option ℚ := (parts x).rational?

/-- Two numbers that read as one. -/
def Agree (x y : Float) : Prop := x = y ∨ ∃ q, rational? x = some q ∧ rational? y = some q

namespace Agree

theorem refl (x : Float) : Agree x x := .inl rfl

theorem trans {x y z : Float} (h : Agree x y) (h' : Agree y z) : Agree x z := by
  rcases h with rfl | ⟨q, hx, hy⟩
  · exact h'
  · rcases h' with rfl | ⟨r, hr, hz⟩
    · exact .inr ⟨q, hx, hy⟩
    · exact .inr ⟨q, hx, hz.trans (hr.symm.trans hy)⟩

end Agree

variable {x y z : Float}

theorem isSome_rational?_iff : (rational? x).isSome ↔ x.isFinite = true := by
  rw [isFinite_iff, rational?]
  cases parts x <;> simp [Parts.rational?]

/-- What reads as zero is one of the two zeros. -/
theorem rational?_eq_zero_iff : rational? x = some 0 ↔ ∃ s, x.toModel.unpack = .zero s := by
  rw [rational?, parts_eq]
  cases x.toModel.unpack with
  | infinity s => simp [Parts.ofUnpacked, Parts.rational?]
  | notANumber => simp [Parts.ofUnpacked, Parts.rational?]
  | zero s => simp [Parts.ofUnpacked, Parts.rational?]
  | finite s m e hm =>
      have hpow : (2 : ℚ) ^ e ≠ 0 := zpow_ne_zero e two_ne_zero
      have hsign : (if (s == .negative) = true then -1 else 1 : ℚ) ≠ 0 := by
        split
        · exact neg_ne_zero.2 one_ne_zero
        · exact one_ne_zero
      have hmantissa : (m : ℚ) ≠ 0 := Nat.cast_ne_zero.2 hm.ne'
      refine iff_of_false (fun h => ?_) ?_
      · exact mul_ne_zero (mul_ne_zero hsign hmantissa) hpow (Option.some.inj h)
      · rintro ⟨t, ht⟩
        cases ht

theorem rational?_of_zero (s : UnpackedFloat.Sign) :
    rational? (.ofModel (.pack (.zero s))) = some 0 := by
  refine rational?_eq_zero_iff.2 ⟨s, ?_⟩
  cases s <;> rfl

theorem rational?_zero : rational? 0 = some 0 := rational?_of_zero .positive

/-- Adding nothing changes nothing, unless it is the sign of a zero. -/
theorem agree_add (x : Float) (hz : rational? z = some 0) : Agree x (x + z) := by
  obtain ⟨s, hz⟩ := rational?_eq_zero_iff.1 hz
  have hadd : x + z =
      .ofModel (.pack (UnpackedFloat.add .binary64 x.toModel.unpack z.toModel.unpack)) := rfl
  have hx := ofModel_pack_unpack x
  rw [hz] at hadd
  cases hunpack : x.toModel.unpack with
  | zero t =>
      refine .inr ⟨0, rational?_eq_zero_iff.2 ⟨t, hunpack⟩, ?_⟩
      rw [hadd, hunpack]
      unfold UnpackedFloat.add
      dsimp only
      split <;> exact rational?_of_zero _
  | infinity t =>
      rw [hunpack] at hadd hx
      exact .inl (hx.symm.trans hadd.symm)
  | notANumber =>
      rw [hunpack] at hadd hx
      exact .inl (hx.symm.trans hadd.symm)
  | finite t m e hm =>
      rw [hunpack] at hadd hx
      exact .inl (hx.symm.trans hadd.symm)

/-- Adding nothing changes nothing, unless it makes a zero the positive one. -/
theorem add_zero_eq (x : Float) : x + 0 = x ∨ x + 0 = 0 := by
  have hadd : x + 0 =
      .ofModel (.pack (UnpackedFloat.add .binary64 x.toModel.unpack (.zero .positive))) := rfl
  have hx := ofModel_pack_unpack x
  cases hunpack : x.toModel.unpack with
  | zero t =>
      right
      rw [hadd, hunpack]
      cases t <;> rfl
  | infinity t =>
      rw [hunpack] at hadd hx
      exact .inl (hadd.trans hx)
  | notANumber =>
      rw [hunpack] at hadd hx
      exact .inl (hadd.trans hx)
  | finite t m e hm =>
      rw [hunpack] at hadd hx
      exact .inl (hadd.trans hx)

theorem add_zero_add_zero (x : Float) : x + 0 + 0 = x + 0 := by
  have hzero : (0 : Float) + 0 = 0 := by decide
  rcases add_zero_eq x with h | h
  · rw [h, h]
  · rw [h, hzero]

/-- A finite number times nothing is nothing. -/
theorem rational?_mul (hy : y.isFinite = true) (hz : rational? z = some 0) :
    rational? (y * z) = some 0 := by
  obtain ⟨s, hz⟩ := rational?_eq_zero_iff.1 hz
  have hmul : y * z =
      .ofModel (.pack (UnpackedFloat.mul .binary64 y.toModel.unpack z.toModel.unpack)) := rfl
  have hfinite : y.toModel.unpack.isFinite = true := hy
  rw [hmul, hz]
  cases hunpack : y.toModel.unpack with
  | zero t => exact rational?_of_zero _
  | finite t m e hm => exact rational?_of_zero _
  | infinity t =>
      rw [hunpack] at hfinite
      cases hfinite
  | notANumber =>
      rw [hunpack] at hfinite
      cases hfinite

end Binary64

end Stagecraft
