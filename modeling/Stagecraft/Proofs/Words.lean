import Mathlib
import Stagecraft.Number.Binary64

/-!
# Words of binary64 numbers

A number is a word of 64 bits: a sign, eleven bits of exponent and 52 of fraction. Arithmetic takes
words apart (`unpack`) and puts results together (`pack`). A word comes back whole from the two
(`pack_unpack`), and what it is taken apart into are the exact parts of the number (`parts_eq`). So
the kind of a number, and the few results of arithmetic that are exact for every number, can be
read off the parts.
-/

namespace Stagecraft

namespace Binary64

open Float.Model (Format UnpackedFloat)
open Float.Model.UnpackedFloat

section Fields

variable (b : BitVec Format.binary64.numBits)

theorem toNat_lt : b.toNat < 2 ^ 64 := b.isLt

theorem toNat_unpackMantissa : (unpackMantissa b).toNat = b.toNat % 2 ^ 52 := by
  simp [unpackMantissa]

theorem toNat_unpackExponent : (unpackExponent b).toNat = b.toNat / 2 ^ 52 % 2 ^ 11 := by
  simp [unpackExponent, Nat.shiftRight_eq_div_pow]

theorem toNat_unpackSign : (unpackSign b).toNat = b.toNat / 2 ^ 63 := by
  have hb := toNat_lt b
  simp [unpackSign, Nat.shiftRight_eq_div_pow]
  omega

theorem toNat_one_append {n : Nat} (v : BitVec n) : (1#1 ++ v).toNat = 2 ^ n + v.toNat := by
  rw [BitVec.toNat_append, ← Nat.shiftLeft_add_eq_or_of_lt v.isLt, Nat.shiftLeft_eq]
  simp

theorem toBitVec_ofBitVec (v : BitVec 1) : (Sign.ofBitVec v).toBitVec = v := by
  revert v
  decide

/-- The fields make up the word. -/
theorem packComponents_unpack : packComponents .binary64 (Sign.ofBitVec (unpackSign b))
    (unpackExponent b) (unpackMantissa b) = b := by
  have hb := toNat_lt b
  refine BitVec.eq_of_toNat_eq ?_
  rw [packComponents, toBitVec_ofBitVec, BitVec.toNat_append, BitVec.toNat_append,
    ← Nat.shiftLeft_add_eq_or_of_lt (BitVec.isLt _),
    ← Nat.shiftLeft_add_eq_or_of_lt (BitVec.isLt _), toNat_unpackMantissa, toNat_unpackExponent,
    toNat_unpackSign, Nat.shiftLeft_eq, Nat.shiftLeft_eq]
  dsimp only
  omega

end Fields

/-! ### Packing -/

theorem log2_eq {m : Nat} (h : 2 ^ 52 ≤ m) (hlt : m < 2 ^ 53) : m.log2 = 52 := by
  rw [Nat.log2_eq_log_two]
  exact Nat.log_eq_of_pow_le_of_lt_pow h hlt

theorem log2_lt {m : Nat} (h : m < 2 ^ 52) : m.log2 < 52 := by
  rw [Nat.log2_eq_log_two]
  exact Nat.log_lt_of_lt_pow' (by decide) h

theorem pack_subnormal (s : Sign) {m : Nat} (h : 0 < m) (hm : m < 2 ^ 52) :
    pack .binary64 (.finite s m (-1074) h) = packComponents .binary64 s 0#_ (BitVec.ofNat _ m) := by
  have hlog := log2_lt hm
  have hbits : Format.binary64.mantissaBits = 53 := rfl
  unfold pack
  dsimp only
  rw [if_neg (by decide), if_neg (by omega)]

theorem pack_normal (s : Sign) {m : Nat} {e : Int} (h : 0 < m) (hm : 2 ^ 52 ≤ m) (hlt : m < 2 ^ 53)
    (he : -1074 ≤ e) (hmax : e ≤ 971) : pack .binary64 (.finite s m e h) =
      packComponents .binary64 s (BitVec.ofNat _ (e + 1075).toNat) (BitVec.ofNat _ m) := by
  have hbits : Format.binary64.mantissaBits = 53 := rfl
  have hbiased : (e + Format.binary64.exponentBias + (52 : Nat)).toNat = (e + 1075).toNat := by
    change (e + (1023 : Nat) + (52 : Nat)).toNat = _
    omega
  unfold pack
  dsimp only
  rw [log2_eq hm hlt, hbiased, if_neg (by omega), if_pos hbits.symm]

/-- A word that is taken apart can be put together again. -/
theorem pack_unpack {b : BitVec Format.binary64.numBits} (h : Format.binary64.Valid b) :
    pack .binary64 (unpack .binary64 b) = b := by
  have hfields := packComponents_unpack b
  have hfraction : (unpackMantissa b).toNat < 2 ^ 52 := BitVec.isLt _
  have hexponent : (unpackExponent b).toNat < 2 ^ 11 := BitVec.isLt _
  have hbias : (Format.binary64.exponentBias : Int) = 1023 := rfl
  unfold unpack
  dsimp only
  split
  · rename_i hones
    split
    · rename_i hzero
      rwa [hones, hzero] at hfields
    · rename_i hzero
      exact (h.eq_packedNaN hones hzero).symm
  · rename_i hones
    split
    · rename_i hnone
      rw [hnone] at hfields ⊢
      split
      · rename_i hzero
        rwa [hzero] at hfields
      · change pack .binary64 (.finite _ _ (-1074) _) = b
        rw [pack_subnormal _ _ hfraction, BitVec.ofNat_toNat, BitVec.setWidth_eq]
        exact hfields
    · rename_i hnone
      have hbelow : (unpackExponent b).toNat ≠ 2047 := fun hall =>
        hones (BitVec.eq_of_toNat_eq hall)
      have hpos : (unpackExponent b).toNat ≠ 0 := fun hall => hnone (BitVec.eq_of_toNat_eq hall)
      have hmantissa : (1#1 ++ unpackMantissa b).toNat = 2 ^ 52 + (unpackMantissa b).toNat :=
        toNat_one_append _
      rw [hbias, pack_normal _ _ (by omega) (by omega) (by omega) (by omega), hmantissa]
      convert hfields using 2
      · refine BitVec.eq_of_toNat_eq ?_
        rw [BitVec.toNat_ofNat]
        change ((_ : Int) - (1023 + 52) + 1075).toNat % 2 ^ 11 = _
        omega
      · refine BitVec.eq_of_toNat_eq ?_
        rw [BitVec.toNat_ofNat]
        change _ % 2 ^ 52 = _
        omega

/-! ### Parts -/

/-- The parts of an unpacked number. -/
def Parts.ofUnpacked : UnpackedFloat → Parts
  | .infinity s => .infinite (s == .negative)
  | .notANumber => .nan
  | .zero s => .finite (s == .negative) 0 (-1074)
  | .finite s m e _ => .finite (s == .negative) m e

theorem ofBitVec_beq_negative (v : BitVec 1) :
    (Sign.ofBitVec v == .negative) = decide (v.toNat = 1) := by
  revert v
  decide

/-- The parts read off the bits are the parts read off the fields. -/
theorem ofUnpacked_unpack (b : BitVec Format.binary64.numBits) :
    Parts.ofUnpacked (unpack .binary64 b) =
      if (unpackExponent b).toNat = 2047 then
        if (unpackMantissa b).toNat = 0 then .infinite ((unpackSign b).toNat = 1) else .nan
      else if (unpackExponent b).toNat = 0 then
        .finite ((unpackSign b).toNat = 1) (unpackMantissa b).toNat (-1074)
      else .finite ((unpackSign b).toNat = 1) (2 ^ 52 + (unpackMantissa b).toNat)
        ((unpackExponent b).toNat - 1075) := by
  have hones : unpackExponent b = -1#_ ↔ (unpackExponent b).toNat = 2047 := BitVec.toNat_inj.symm
  have hnone : unpackExponent b = 0#_ ↔ (unpackExponent b).toNat = 0 := BitVec.toNat_inj.symm
  have hwhole : unpackMantissa b = 0#_ ↔ (unpackMantissa b).toNat = 0 := BitVec.toNat_inj.symm
  unfold unpack
  dsimp only
  rw [← ofBitVec_beq_negative]
  split
  · rename_i h
    rw [if_pos (hones.1 h)]
    split
    · rename_i hm
      rw [if_pos (hwhole.1 hm)]
      rfl
    · rename_i hm
      rw [if_neg (mt hwhole.2 hm)]
      rfl
  · rename_i h
    rw [if_neg (mt hones.2 h)]
    split
    · rename_i he
      rw [if_pos (hnone.1 he), he]
      split
      · rename_i hm
        rw [hm]
        rfl
      · rfl
    · rename_i he
      rw [if_neg (mt hnone.2 he)]
      exact congrArg₂ (Parts.finite _) (toNat_one_append _) rfl

/-- The exact parts of a number are what it is unpacked into. -/
theorem parts_eq (x : Float) : parts x = .ofUnpacked x.toModel.unpack := by
  have hunpack : x.toModel.unpack = unpack .binary64 x.toBits.toBitVec := rfl
  rw [hunpack, ofUnpacked_unpack, toNat_unpackExponent, toNat_unpackMantissa, toNat_unpackSign]
  rfl

theorem isNaN_iff {x : Float} : x.isNaN = true ↔ parts x = .nan := by
  have hnan : x.isNaN = x.toModel.unpack.isNaN := rfl
  rw [hnan, parts_eq]
  cases x.toModel.unpack <;> simp [UnpackedFloat.isNaN, Parts.ofUnpacked]

theorem isInf_iff {x : Float} : x.isInf = true ↔ ∃ negative, parts x = .infinite negative := by
  have hinf : x.isInf = x.toModel.unpack.isInf := rfl
  rw [hinf, parts_eq]
  cases x.toModel.unpack <;> simp [UnpackedFloat.isInf, Parts.ofUnpacked]

theorem isFinite_iff {x : Float} :
    x.isFinite = true ↔ ∃ negative m e, parts x = .finite negative m e := by
  have hfinite : x.isFinite = x.toModel.unpack.isFinite := rfl
  rw [hfinite, parts_eq]
  cases x.toModel.unpack <;> simp [UnpackedFloat.isFinite, Parts.ofUnpacked]

/-! ### Words of numbers -/

theorem ofModel_pack_unpack (x : Float) : Float.ofModel (.pack x.toModel.unpack) = x := by
  obtain ⟨bits, hvalid⟩ := x
  refine congrArg Float.ofModel ?_
  have hpack := pack_unpack hvalid
  simp only [Float.Model.pack, Float.Model.unpack, hpack]

/-- A word that is not one of the many that are no number is the word of its number. -/
theorem toBits_ofBits {w : UInt64} (h : Format.binary64.Valid w.toBitVec) :
    (Float.ofBits w).toBits = w :=
  congrArg UInt64.ofBitVec (pack_unpack h)

/-- Up to the bits of infinity, with a sign, words are valid. -/
theorem valid_of_le {b : BitVec Format.binary64.numBits} (h : b.toNat % 2 ^ 63 ≤ infinityBits) :
    Format.binary64.Valid b := by
  refine ⟨fun hones hfraction => absurd (BitVec.eq_of_toNat_eq ?_) hfraction⟩
  have hexponent : b.toNat / 2 ^ 52 % 2 ^ 11 = 2047 := by
    rw [← toNat_unpackExponent, hones]
    rfl
  rw [infinityBits] at h
  rw [toNat_unpackMantissa]
  change _ = 0
  omega

/-- What the words up to infinity denote, a sign aside. -/
theorem parts_ofBits {n : Nat} (hlt : n < 2 ^ 64) (h : n % 2 ^ 63 ≤ infinityBits) :
    parts (Float.ofBits (UInt64.ofNat n)) ≠ .nan ∧
      ((∃ negative, parts (Float.ofBits (UInt64.ofNat n)) = .infinite negative) ↔
        n % 2 ^ 63 = infinityBits) := by
  have hn : (UInt64.ofNat n).toBitVec.toNat = n := Nat.mod_eq_of_lt hlt
  have hbits : (Float.ofBits (UInt64.ofNat n)).toBits.toNat = n := by
    rw [toBits_ofBits (valid_of_le (hn.symm ▸ h))]
    exact hn
  have hpow : Nat.pow 2 52 = 2 ^ 52 ∧ Nat.pow 2 11 = 2 ^ 11 := ⟨rfl, rfl⟩
  unfold parts
  rw [hbits]
  dsimp only
  rw [hpow.1, hpow.2]
  rw [infinityBits] at h ⊢
  split
  · rename_i hones
    rw [if_pos (by omega)]
    exact ⟨nofun, iff_of_true ⟨_, rfl⟩ (by omega)⟩
  · rename_i hones
    split
    · exact ⟨nofun, iff_of_false nofun (by omega)⟩
    · exact ⟨nofun, iff_of_false nofun (by omega)⟩

end Binary64

end Stagecraft
