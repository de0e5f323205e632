import Stagecraft.Proofs.Characters
import Stagecraft.Proofs.Pieces
import Stagecraft.Trait.Definition

/-!
# Which numerals can be read

A run of digits is a numeral as long as it is not too long, and a text that looks like a decimal
numeral is one, be its digits of whatever script. Numerals are cut into parts here: a sign, digits,
a point with digits and an exponent. What counts as a digit is left open, so that the parts of a
numeral and those of its ASCII form are parts in the same sense.
-/

namespace Stagecraft

namespace Text

theorem digitValue?_lt {c : Char} {d : Nat} (h : digitValue? c = some d) : d < 10 := by
  unfold digitValue? at h
  split at h
  · split at h
    · rename_i hc
      cases h
      simp only [Char.isDigit, Bool.and_eq_true, decide_eq_true_eq] at hc
      have hle : c.toNat ≤ 57 := UInt32.le_iff_toNat_le.1 hc.2
      omega
    · cases h
  · obtain ⟨z, hz, rfl⟩ := Option.map_eq_some_iff.1 h
    have hrange := List.find?_some hz
    simp only [Bool.and_eq_true, decide_eq_true_eq] at hrange
    omega

theorem isDigit_ofNat {d : Nat} (h : d < 10) : (Char.ofNat (48 + d)).isDigit = true := by
  have hall : ∀ d < 10, (Char.ofNat (48 + d)).isDigit = true := by decide
  exact hall d h

/-- The blanks, one by one. -/
def blanks : List Char :=
  [9, 10, 11, 12, 13, 28, 29, 30, 31, 32, 0x85, 0xa0, 0x1680, 0x2000, 0x2001, 0x2002, 0x2003,
    0x2004, 0x2005, 0x2006, 0x2007, 0x2008, 0x2009, 0x200a, 0x2028, 0x2029, 0x202f, 0x205f,
    0x3000].map Char.ofNat

theorem mem_blanks_of_isBlank {c : Char} (h : isBlank c = true) : c ∈ blanks := by
  have hc : c = Char.ofNat c.toNat := (Char.ofNat_toNat c).symm
  unfold isBlank at h
  simp only [Bool.or_eq_true, Bool.and_eq_true, decide_eq_true_eq] at h
  rw [hc]
  refine List.mem_map_of_mem ?_
  simp only [List.mem_cons, List.not_mem_nil, or_false]
  omega

theorem isDecimal_of_isBlank {c : Char} (h : isBlank c = true) : isDecimal c = false := by
  have hall : blanks.all (fun c => !isDecimal c) = true := by decide
  simpa using List.all_eq_true.1 hall c (mem_blanks_of_isBlank h)

end Text

namespace Numeral

/-- The signs that a numeral may have in front, one of them being none. -/
def signs : List (List Char) := [[], ['-'], ['+']]

/-- A point with digits after it, or nothing. The digits are given for themselves. -/
inductive IsFraction (isDigit : Char → Bool) : List Char → List Char → Prop
  | none : IsFraction isDigit [] []
  | some {ds : List Char} (h : ∀ c ∈ ds, isDigit c = true) : IsFraction isDigit ('.' :: ds) ds

/-- The mark of an exponent with a number, or nothing. -/
inductive IsExponent (isDigit : Char → Bool) : List Char → Prop
  | none : IsExponent isDigit []
  | some {e : Char} {sign ds : List Char} (he : e = 'e' ∨ e = 'E') (hsign : sign ∈ signs)
      (hne : ds ≠ []) (h : ∀ c ∈ ds, isDigit c = true) : IsExponent isDigit (e :: (sign ++ ds))

/-- A real numeral, in parts. -/
inductive IsReal (isDigit : Char → Bool) : List Char → Prop
  | mk {sign whole point fraction exponent : List Char} (hsign : sign ∈ signs)
      (hwhole : ∀ c ∈ whole, isDigit c = true) (hpoint : IsFraction isDigit point fraction)
      (hexponent : IsExponent isDigit exponent) (hne : whole ≠ [] ∨ fraction ≠ []) :
      IsReal isDigit (sign ++ (whole ++ (point ++ exponent)))

/-- Characters that stand in numerals besides digits. -/
def marks : List Char := ['-', '+', '.', 'e', 'E']

variable {isDigit : Char → Bool}

theorem mem_marks_of_signs {sign : List Char} (h : sign ∈ signs) : ∀ c ∈ sign, c ∈ marks := by
  simp only [signs, List.mem_cons, List.not_mem_nil, or_false] at h
  rcases h with rfl | rfl | rfl
  · simp
  · simp [marks]
  · simp [marks]

theorem IsReal.mem {cs : List Char} (h : IsReal isDigit cs) :
    ∀ c ∈ cs, isDigit c = true ∨ c ∈ marks := by
  obtain ⟨hsign, hwhole, hpoint, hexponent, -⟩ := h
  intro c hc
  rcases List.mem_append.1 hc with hc | hc
  · exact .inr (mem_marks_of_signs hsign c hc)
  rcases List.mem_append.1 hc with hc | hc
  · exact .inl (hwhole c hc)
  rcases List.mem_append.1 hc with hc | hc
  · cases hpoint with
    | none => cases hc
    | some hds =>
        rcases List.mem_cons.1 hc with rfl | hc
        · exact .inr (by decide)
        · exact .inl (hds c hc)
  · cases hexponent with
    | none => cases hc
    | some he hs _ hds =>
        rcases List.mem_cons.1 hc with rfl | hc
        · rcases he with rfl | rfl
          · exact .inr (by decide)
          · exact .inr (by decide)
        · rcases List.mem_append.1 hc with hc | hc
          · exact .inr (mem_marks_of_signs hs c hc)
          · exact .inl (hds c hc)

theorem IsReal.ne_nil {cs : List Char} (h : IsReal isDigit cs) : cs ≠ [] := by
  obtain ⟨-, -, hpoint, -, hne⟩ := h
  rcases hne with hne | hne
  · simp [hne]
  · cases hpoint with
    | none => exact absurd rfl hne
    | some _ => simp

/-! ### ASCII forms -/

theorem toAscii_append (cs ds : List Char) : toAscii (cs ++ ds) = toAscii cs ++ toAscii ds :=
  List.map_append

theorem length_toAscii (cs : List Char) : (toAscii cs).length = cs.length := List.length_map _

theorem toAscii_eq_nil_iff {cs : List Char} : toAscii cs = [] ↔ cs = [] := List.map_eq_nil_iff

/-- Digits become ASCII digits. -/
theorem isDigit_of_mem_toAscii {ds : List Char} (h : ∀ c ∈ ds, Text.isDecimal c = true) :
    ∀ c ∈ toAscii ds, c.isDigit = true := by
  intro c hc
  obtain ⟨b, hb, rfl⟩ := List.mem_map.1 hc
  obtain ⟨d, hd⟩ := Option.isSome_iff_exists.1 (h b hb)
  rw [hd]
  exact Text.isDigit_ofNat (Text.digitValue?_lt hd)

theorem toAscii_of_signs {sign : List Char} (h : sign ∈ signs) : toAscii sign = sign := by
  simp only [signs, List.mem_cons, List.not_mem_nil, or_false] at h
  rcases h with rfl | rfl | rfl <;> decide

theorem IsFraction.toAscii {point fraction : List Char}
    (h : IsFraction Text.isDecimal point fraction) :
    IsFraction Char.isDigit (toAscii point) (toAscii fraction) := by
  cases h with
  | none => exact .none
  | some hds => exact .some (isDigit_of_mem_toAscii hds)

/-- The ASCII form of a numeral has the same parts. -/
theorem IsReal.toAscii {cs : List Char} (h : IsReal Text.isDecimal cs) :
    IsReal Char.isDigit (toAscii cs) := by
  obtain ⟨hsign, hwhole, hpoint, hexponent, hne⟩ := h
  rename_i sign whole point fraction exponent
  have hexp : IsExponent Char.isDigit (Numeral.toAscii exponent) := by
    cases hexponent with
    | none => exact .none
    | @some e s ds he hs hds h =>
        have hmark : Numeral.toAscii (e :: (s ++ ds)) = e :: (s ++ Numeral.toAscii ds) := by
          have he' : Numeral.toAscii [e] = [e] := by rcases he with rfl | rfl <;> decide
          rw [← List.singleton_append, toAscii_append, he', toAscii_append, toAscii_of_signs hs]
          rfl
        rw [hmark]
        exact .some he hs (by rwa [Ne, toAscii_eq_nil_iff]) (isDigit_of_mem_toAscii h)
  rw [toAscii_append, toAscii_append, toAscii_append, toAscii_of_signs hsign]
  refine .mk hsign (isDigit_of_mem_toAscii hwhole) hpoint.toAscii hexp ?_
  rwa [Ne, toAscii_eq_nil_iff, Ne, toAscii_eq_nil_iff]

theorem dropUnderscores_of_not_mem {cs : List Char} (h : '_' ∉ cs) (before : Bool) :
    dropUnderscores before cs = some cs := by
  induction cs generalizing before with
  | nil => rfl
  | cons c cs ih =>
      rw [List.mem_cons, not_or] at h
      unfold dropUnderscores
      split
      · rename_i heq
        cases heq
      · rename_i heq
        cases heq
        exact absurd rfl h.1
      · rename_i heq
        cases heq
        rw [ih h.2]
        rfl

theorem underscore_not_mem_of_isDigit {ds : List Char} (h : ∀ c ∈ ds, c.isDigit = true) :
    '_' ∉ ds := fun hmem => by
  have := h '_' hmem
  revert this
  decide

/-! ### Runs of digits -/

theorem takeSign_of_no_sign {cs : List Char} (hminus : ∀ rest, cs = '-' :: rest → False)
    (hplus : ∀ rest, cs = '+' :: rest → False) : takeSign cs = (false, cs) := by
  unfold takeSign
  split
  · exact absurd rfl (hminus _)
  · exact absurd rfl (hplus _)
  · rfl

/-- A sign is taken off. -/
theorem takeSign_append {sign cs : List Char} (hsign : sign ∈ signs)
    (h : ∀ c ∈ cs.head?, c ≠ '-' ∧ c ≠ '+') : (takeSign (sign ++ cs)).2 = cs := by
  simp only [signs, List.mem_cons, List.not_mem_nil, or_false] at hsign
  rcases hsign with rfl | rfl | rfl
  · rw [List.nil_append, takeSign_of_no_sign]
    · rintro rest rfl
      exact (h '-' rfl).1 rfl
    · rintro rest rfl
      exact (h '+' rfl).2 rfl
  · rfl
  · rfl

theorem exists_sign (cs : List Char) : ∃ sign ∈ signs, cs = sign ++ (takeSign cs).2 := by
  unfold takeSign
  split
  · exact ⟨['-'], by decide, rfl⟩
  · exact ⟨['+'], by decide, rfl⟩
  · exact ⟨[], by decide, rfl⟩

theorem not_sign_of_isDigit {ds : List Char} (h : ∀ c ∈ ds, c.isDigit = true) :
    ∀ c ∈ ds.head?, c ≠ '-' ∧ c ≠ '+' := by
  intro c hc
  have hdigit := h c (List.mem_of_mem_head? hc)
  constructor
  · rintro rfl
    exact absurd hdigit (by decide)
  · rintro rfl
    exact absurd hdigit (by decide)

/-- A run of digits is read unless it is too long. -/
theorem integerChars?_eq_none_iff {sign ds : List Char} (hsign : sign ∈ signs) (hne : ds ≠ [])
    (h : ∀ c ∈ ds, Text.isDecimal c = true) :
    integerChars? (toAscii (sign ++ ds)) = none ↔ digitLimit < ds.length := by
  have hdigits := isDigit_of_mem_toAscii h
  have hall : (toAscii ds).all Char.isDigit = true := List.all_eq_true.2 hdigits
  have hempty : (toAscii ds).isEmpty = false := by
    rwa [List.isEmpty_eq_false_iff, Ne, toAscii_eq_nil_iff]
  rw [toAscii_append, toAscii_of_signs hsign]
  unfold integerChars?
  rcases hsplit : takeSign (sign ++ toAscii ds) with ⟨negative, body⟩
  have hbody : body = toAscii ds := by
    have := takeSign_append hsign (not_sign_of_isDigit hdigits)
    rwa [hsplit] at this
  dsimp only
  rw [hbody, dropUnderscores_of_not_mem (underscore_not_mem_of_isDigit hdigits)]
  change (if (_ : Bool) = true then none else _) = none ↔ _
  rw [hempty, hall, length_toAscii]
  simp

/-! ### Real numerals -/

theorem takeDigits_eq {ds rest : List Char} (h : ∀ c ∈ ds, c.isDigit = true)
    (hrest : ∀ c ∈ rest.head?, c.isDigit = false) : takeDigits (ds ++ rest) = (ds, rest) := by
  unfold takeDigits
  rw [List.takeWhile_append_of_pos h, List.dropWhile_append_of_pos h]
  cases rest with
  | nil => simp
  | cons c rest =>
      have hc : c.isDigit = false := hrest c rfl
      simp [hc]

theorem IsExponent.head_not_digit {cs : List Char} (h : IsExponent Char.isDigit cs) :
    ∀ c ∈ cs.head?, c.isDigit = false := by
  cases h with
  | none => exact fun _ hc => nomatch hc
  | some he _ _ _ =>
      intro c hc
      cases hc
      rcases he with rfl | rfl <;> decide

theorem isSome_exponent? {cs : List Char} (h : IsExponent Char.isDigit cs) :
    (exponent? cs).isSome := by
  cases h with
  | none => rfl
  | @some e sign ds he hs hne h =>
      have hmark : (e = 'e' || e = 'E') = true := by simpa using he
      have hbody := takeSign_append hs (not_sign_of_isDigit h)
      have hall : ds.all Char.isDigit = true := List.all_eq_true.2 h
      have hempty : ds.isEmpty = false := by simpa using hne
      unfold exponent?
      dsimp only
      rw [if_pos hmark]
      rcases hsplit : takeSign (sign ++ ds) with ⟨negative, body⟩
      rw [hsplit] at hbody
      dsimp only at hbody ⊢
      rw [hbody, hempty, hall]
      rfl

theorem isSome_unsigned? {whole point fraction exponent : List Char}
    (hwhole : ∀ c ∈ whole, c.isDigit = true) (hpoint : IsFraction Char.isDigit point fraction)
    (hexponent : IsExponent Char.isDigit exponent) (hne : whole ≠ [] ∨ fraction ≠ [])
    (negative : Bool) : (unsigned? negative (whole ++ (point ++ exponent))).isSome := by
  have hempty : (whole.isEmpty && fraction.isEmpty) = false := by
    rw [Bool.and_eq_false_iff, List.isEmpty_eq_false_iff, List.isEmpty_eq_false_iff]
    exact hne
  have hexp := isSome_exponent? hexponent
  unfold unsigned?
  cases hpoint with
  | none =>
      rw [List.nil_append, takeDigits_eq hwhole hexponent.head_not_digit]
      cases hexponent with
      | none =>
          dsimp only
          rw [if_neg (by simpa using hempty)]
          rfl
      | some he _ _ _ =>
          dsimp only
          split
          · rename_i heq
            cases heq
            simp at he
          · dsimp only
            rw [if_neg (by simpa using hempty), Option.isSome_map]
            exact hexp
  | some hds =>
      rw [List.cons_append, takeDigits_eq hwhole (by simp)]
      change (if (whole.isEmpty && (takeDigits (fraction ++ exponent)).1.isEmpty) = true then none
        else Option.map _ (exponent? (takeDigits (fraction ++ exponent)).2)).isSome = true
      rw [takeDigits_eq hds hexponent.head_not_digit]
      dsimp only
      rw [if_neg (by simpa using hempty), Option.isSome_map]
      exact hexp

/-- Behind a sign a numeral does not begin with another. -/
theorem head_not_sign {whole point fraction : List Char} (hminus : isDigit '-' = false)
    (hplus : isDigit '+' = false) (hwhole : ∀ c ∈ whole, isDigit c = true)
    (hpoint : IsFraction isDigit point fraction) (hne : whole ≠ [] ∨ fraction ≠ [])
    (rest : List Char) :
    ∀ c ∈ (whole ++ (point ++ rest)).head?, c ≠ '-' ∧ c ≠ '+' := by
  intro c hc
  cases whole with
  | cons d ds =>
      cases hc
      have hd : isDigit c = true := hwhole c List.mem_cons_self
      constructor
      · rintro rfl
        rw [hminus] at hd
        cases hd
      · rintro rfl
        rw [hplus] at hd
        cases hd
  | nil =>
      cases hpoint with
      | none => simp at hne
      | some hds =>
          cases hc
          decide

/-- What has the parts of a numeral is one. -/
theorem isSome_plain? {cs : List Char} (h : IsReal Char.isDigit cs) : (plain? cs).isSome := by
  obtain ⟨hsign, hwhole, hpoint, hexponent, hne⟩ := h
  rename_i sign whole point fraction exponent
  have hbody := takeSign_append hsign
    (head_not_sign (by decide) (by decide) hwhole hpoint hne exponent)
  unfold plain?
  rcases hsplit : takeSign (sign ++ (whole ++ (point ++ exponent))) with ⟨negative, body⟩
  rw [hsplit] at hbody
  dsimp only at hbody ⊢
  rw [hbody]
  split
  · rfl
  · split
    · rfl
    · exact isSome_unsigned? hwhole hpoint hexponent hne negative

/-- The blanks around a numeral are dropped. -/
theorem trim_append {lead body tail : List Char} (hlead : ∀ c ∈ lead, isPadding c = true)
    (htail : ∀ c ∈ tail, isPadding c = true) (hbody : ∀ c ∈ body, isPadding c = false) :
    trim (lead ++ (body ++ tail)) = body :=
  Text.trimmedOf_iff.1 ⟨⟨lead, tail, rfl, List.forall_mem_append.2 ⟨hlead, htail⟩⟩,
    fun c hc => hbody c (List.mem_of_mem_head? hc), fun c hc => hbody c (List.mem_of_getLast? hc)⟩

theorem isPadding_of_not_separator {c : Char} (hc : ¬ (28 ≤ c.toNat ∧ c.toNat < 32)) :
    isPadding c = Text.isBlank c := by
  have hsep : (decide (28 ≤ c.toNat) && decide (c.toNat < 32)) = false := by
    simp only [Bool.and_eq_false_iff, decide_eq_false_iff_not]
    omega
  simp [isPadding, hsep]

theorem IsReal.not_isBlank {cs : List Char} (h : IsReal Text.isDecimal cs) {c : Char}
    (hc : c ∈ cs) : Text.isBlank c = false := by
  cases hb : Text.isBlank c with
  | false => rfl
  | true =>
      rcases h.mem c hc with hd | hm
      · exact absurd (Text.isDecimal_of_isBlank hb) (by simp [hd])
      · have hmarks : marks.all (fun c => !Text.isBlank c) = true := by decide
        simpa [hb] using List.all_eq_true.1 hmarks c hm

theorem IsReal.underscore_not_mem {cs : List Char} (h : IsReal Char.isDigit cs) : '_' ∉ cs := by
  intro hmem
  rcases h.mem '_' hmem with hd | hm
  · exact absurd hd (by decide)
  · exact absurd hm (by decide)

theorem trim_of_isReal {s : String} {lead body tail : List Char}
    (hs : s.toList = lead ++ (body ++ tail)) (hlead : ∀ c ∈ lead, Text.isBlank c = true)
    (htail : ∀ c ∈ tail, Text.isBlank c = true) (hbody : IsReal Text.isDecimal body)
    (hclean : ∀ c ∈ s.toList, ¬ (28 ≤ c.toNat ∧ c.toNat < 32)) : trim s.toList = body := by
  have hpadding (c : Char) (hc : c ∈ s.toList) : isPadding c = Text.isBlank c :=
    isPadding_of_not_separator (hclean c hc)
  rw [hs]
  refine trim_append (fun c hc => ?_) (fun c hc => ?_) fun c hc => ?_
  · rw [hpadding c (by simp [hs, hc])]
    exact hlead c hc
  · rw [hpadding c (by simp [hs, hc])]
    exact htail c hc
  · rw [hpadding c (by simp [hs, hc])]
    exact hbody.not_isBlank hc

/-- Unless there are information separators in it, a numeral with blanks around it is read. -/
theorem isSome_float? {s : String} {lead body tail : List Char}
    (hs : s.toList = lead ++ (body ++ tail)) (hlead : ∀ c ∈ lead, Text.isBlank c = true)
    (htail : ∀ c ∈ tail, Text.isBlank c = true) (hbody : IsReal Text.isDecimal body)
    (hclean : ∀ c ∈ s.toList, ¬ (28 ≤ c.toNat ∧ c.toNat < 32)) : (float? s).isSome := by
  have hascii := hbody.toAscii
  unfold float? decimal?
  rw [trim_of_isReal hs hlead htail hbody hclean,
    dropUnderscores_of_not_mem hascii.underscore_not_mem, Option.isSome_map]
  exact isSome_plain? hascii

end Numeral

namespace TraitMaker

open Numeral

/-- The digits behind a point that comes first, and the rest. -/
def fractionOf : List Char → List Char × List Char
  | '.' :: rest => (rest.takeWhile Text.isDecimal, rest.dropWhile Text.isDecimal)
  | rest => ([], rest)

/-- What is behind an exponent that comes first. -/
def afterExponent (cs : List Char) : List Char :=
  match cs with
  | c :: more =>
    if (c = 'e' || c = 'E') && ((takeSign more).2.head?.map Text.isDecimal).getD false then
      (takeSign more).2.dropWhile Text.isDecimal
    else cs
  | [] => cs

theorem all_takeWhile_isDecimal (cs : List Char) :
    ∀ c ∈ cs.takeWhile Text.isDecimal, Text.isDecimal c = true :=
  fun _ hc => List.mem_takeWhile_imp hc

theorem exists_fraction (cs : List Char) :
    ∃ point, IsFraction Text.isDecimal point (fractionOf cs).1 ∧
      cs = point ++ (fractionOf cs).2 := by
  unfold fractionOf
  split
  · rename_i rest
    refine ⟨'.' :: rest.takeWhile Text.isDecimal, .some (all_takeWhile_isDecimal rest), ?_⟩
    simp [List.takeWhile_append_dropWhile]
  · exact ⟨[], .none, rfl⟩

theorem exists_exponent (cs : List Char) :
    ∃ exponent, IsExponent Text.isDecimal exponent ∧ cs = exponent ++ afterExponent cs := by
  unfold afterExponent
  split
  · rename_i c more
    split
    · rename_i h
      rw [Bool.and_eq_true, Bool.or_eq_true, decide_eq_true_eq, decide_eq_true_eq] at h
      obtain ⟨he, hd⟩ := h
      obtain ⟨sign, hsign, hmore⟩ := exists_sign more
      have hne : (takeSign more).2.takeWhile Text.isDecimal ≠ [] := by
        cases hds : (takeSign more).2 with
        | nil => simp [hds] at hd
        | cons d ds =>
            have hdec : Text.isDecimal d = true := by simpa [hds] using hd
            simp [hdec]
      refine ⟨c :: (sign ++ (takeSign more).2.takeWhile Text.isDecimal),
        .some he hsign hne (all_takeWhile_isDecimal _), ?_⟩
      rw [List.cons_append, List.append_assoc, List.takeWhile_append_dropWhile, ← hmore]
    · exact ⟨[], .none, rfl⟩
  · exact ⟨[], .none, rfl⟩

/-- A text that looks like a numeral has the parts of one. -/
theorem isReal_of_isNumeral {s : String} (h : isNumeral s = true) :
    ∃ lead body tail, s.toList = lead ++ (body ++ tail) ∧
      (∀ c ∈ lead, Text.isBlank c = true) ∧ (∀ c ∈ tail, Text.isBlank c = true) ∧
      IsReal Text.isDecimal body := by
  obtain ⟨cs, hcs⟩ : ∃ cs, cs = (takeSign (s.toList.dropWhile Text.isBlank)).2 := ⟨_, rfl⟩
  have heq : isNumeral s =
      (!((cs.takeWhile Text.isDecimal).isEmpty &&
          (fractionOf (cs.dropWhile Text.isDecimal)).1.isEmpty) &&
        (afterExponent (fractionOf (cs.dropWhile Text.isDecimal)).2).all Text.isBlank) := by
    subst hcs
    rfl
  rw [heq, Bool.and_eq_true, Bool.not_eq_true', Bool.and_eq_false_iff, List.isEmpty_eq_false_iff,
    List.isEmpty_eq_false_iff, List.all_eq_true] at h
  obtain ⟨hne, htail⟩ := h
  obtain ⟨sign, hsign, hafter⟩ := exists_sign (s.toList.dropWhile Text.isBlank)
  obtain ⟨point, hpoint, hrest⟩ := exists_fraction (cs.dropWhile Text.isDecimal)
  obtain ⟨exponent, hexponent, hend⟩ :=
    exists_exponent (fractionOf (cs.dropWhile Text.isDecimal)).2
  refine ⟨s.toList.takeWhile Text.isBlank, _, _, ?_, fun c hc => List.mem_takeWhile_imp hc, htail,
    .mk hsign (all_takeWhile_isDecimal cs) hpoint hexponent hne⟩
  calc s.toList = s.toList.takeWhile Text.isBlank ++ (sign ++ cs) := by
        rw [hcs, ← hafter, List.takeWhile_append_dropWhile]
    _ = s.toList.takeWhile Text.isBlank ++
          (sign ++ (cs.takeWhile Text.isDecimal ++ cs.dropWhile Text.isDecimal)) := by
        rw [List.takeWhile_append_dropWhile]
    _ = _ := by
        conv_lhs => rw [hrest, hend]
        simp only [List.append_assoc]

theorem separator_not_mem {cs : List Char} (h : Markup.IsClean cs) :
    ∀ c ∈ cs, ¬ (28 ≤ c.toNat ∧ c.toNat < 32) := by
  intro c hc hsep
  have hallowed := h c hc
  unfold Markup.Token.isAllowed at hallowed
  simp only [Bool.or_eq_true, Bool.and_eq_true, decide_eq_true_eq] at hallowed
  omega

/-- Every attribute value of a document can be taken as the value of a field. -/
theorem exists_parseValue {s : String} (h : Markup.IsClean s.toList) :
    ∃ v, parseValue s = .ok v := by
  unfold parseValue
  split
  · exact ⟨_, rfl⟩
  · split
    · exact ⟨_, rfl⟩
    · split
      · rename_i hnum
        obtain ⟨lead, body, tail, hs, hlead, htail, hbody⟩ := isReal_of_isNumeral hnum
        obtain ⟨x, hx⟩ := Option.isSome_iff_exists.1
          (isSome_float? hs hlead htail hbody (separator_not_mem h))
        rw [hx]
        exact ⟨_, rfl⟩
      · exact ⟨_, rfl⟩

end TraitMaker

end Stagecraft
