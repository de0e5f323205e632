import Mathlib.Data.List.Induction
import Mathlib.Data.Nat.Digits.Defs
import Stagecraft.Proofs.Numerals
import Stagecraft.Proofs.Pieces

/-!
# Integer numerals

The texts that denote integers, given by their grammar: a sign, and digits of any script that may
have single underscores between them, with blanks around it all. A text of the grammar is read as
the number its digits write in base ten, unless there are too many of them (`int?_eq_some_iff`); the
text of an integer denotes it (`isInteger_toString`).
-/

namespace Stagecraft

namespace Numeral

/-- Digits with single underscores between them. The digits are given for themselves. -/
inductive IsGrouped (isDigit : Char → Bool) : List Char → List Char → Prop
  | last {c : Char} (h : isDigit c = true) : IsGrouped isDigit [c] [c]
  | digit {c : Char} {cs ds : List Char} (h : isDigit c = true) :
      IsGrouped isDigit cs ds → IsGrouped isDigit (c :: cs) (c :: ds)
  | apart {c : Char} {cs ds : List Char} (h : isDigit c = true) :
      IsGrouped isDigit cs ds → IsGrouped isDigit (c :: '_' :: cs) (c :: ds)

/-- The number that digits of any script write. -/
def valueOf (ds : List Char) : Nat := Nat.ofDigits 10 (ds.filterMap Text.digitValue?).reverse

/-- The integer of a sign and a number. -/
def signed (sign : List Char) (n : Nat) : Int := if sign = ['-'] then -(n : Int) else n

/-- A text denotes an integer by these digits. -/
structure IsInteger (s : String) (n : Int) (digits : List Char) : Prop where
  parts : ∃ sign body, sign ∈ signs ∧ IsGrouped Text.isDecimal body digits ∧
    Text.TrimmedOf isPadding s.toList (sign ++ body) ∧
    n = signed sign (valueOf digits)

variable {isDigit : Char → Bool}

namespace IsGrouped

theorem all {cs ds : List Char} (h : IsGrouped isDigit cs ds) : ∀ c ∈ ds, isDigit c = true := by
  induction h with
  | last h => simpa using h
  | digit h _ ih => exact List.forall_mem_cons.2 ⟨h, ih⟩
  | apart h _ ih => exact List.forall_mem_cons.2 ⟨h, ih⟩

theorem ne_nil {cs ds : List Char} (h : IsGrouped isDigit cs ds) : ds ≠ [] := by
  cases h <;> simp

theorem exists_head {cs ds : List Char} (h : IsGrouped isDigit cs ds) :
    ∃ c rest, cs = c :: rest ∧ isDigit c = true := by
  cases h with
  | last h => exact ⟨_, _, rfl, h⟩
  | digit h _ => exact ⟨_, _, rfl, h⟩
  | apart h _ => exact ⟨_, _, rfl, h⟩

theorem length_le {cs ds : List Char} (h : IsGrouped isDigit cs ds) : ds.length ≤ cs.length := by
  induction h with
  | last => exact le_rfl
  | digit _ _ ih => exact Nat.succ_le_succ ih
  | apart _ _ ih => exact Nat.succ_le_succ (Nat.le_succ_of_le ih)

theorem of_all {ds : List Char} (hne : ds ≠ []) (h : ∀ c ∈ ds, isDigit c = true) :
    IsGrouped isDigit ds ds := by
  induction ds with
  | nil => exact absurd rfl hne
  | cons c ds ih =>
      obtain ⟨hc, hds⟩ := List.forall_mem_cons.1 h
      cases ds with
      | nil => exact .last hc
      | cons d ds => exact .digit hc (ih (List.cons_ne_nil d ds) hds)

end IsGrouped

/-- No more digits than characters. -/
theorem IsInteger.length_le {s : String} {n : Int} {digits : List Char} (h : IsInteger s n digits) :
    digits.length ≤ s.toList.length := by
  obtain ⟨sign, body, -, hgroup, ⟨⟨lead, tail, hchars, -⟩, -, -⟩, -⟩ := h.parts
  rw [hchars, List.length_append, List.length_append, List.length_append]
  have hlength := hgroup.length_le
  omega

/-! ### Underscores -/

theorem ne_underscore_of_isDigit {c : Char} (h : c.isDigit = true) : c ≠ '_' := by
  rintro rfl
  revert h
  decide

theorem dropUnderscores_cons {c : Char} (h : c ≠ '_') (before : Bool) (cs : List Char) :
    dropUnderscores before (c :: cs) = (dropUnderscores c.isDigit cs).map (c :: ·) :=
  dropUnderscores.eq_4 before c cs h

theorem dropUnderscores_of_isGrouped {cs ds : List Char} (h : IsGrouped Char.isDigit cs ds)
    (before : Bool) : dropUnderscores before cs = some ds := by
  induction h generalizing before with
  | last hc => rw [dropUnderscores_cons (ne_underscore_of_isDigit hc), dropUnderscores]; rfl
  | digit hc _ ih => rw [dropUnderscores_cons (ne_underscore_of_isDigit hc), ih]; rfl
  | apart hc hrest ih =>
      obtain ⟨d, rest, rfl, hd⟩ := hrest.exists_head
      rw [dropUnderscores_cons (ne_underscore_of_isDigit hc), dropUnderscores, hc, hd]
      exact congrArg (Option.map _) (ih false)

/-- If only digits are left when underscores are dropped, the digits were grouped; behind a digit
the first character may have been an underscore. -/
theorem isGrouped_of_dropUnderscores {before : Bool} {cs ds : List Char}
    (h : dropUnderscores before cs = some ds) (hds : ∀ c ∈ ds, c.isDigit = true) :
    (cs = [] ∧ ds = []) ∨ IsGrouped Char.isDigit cs ds ∨
      before = true ∧ ∃ rest, cs = '_' :: rest ∧ IsGrouped Char.isDigit rest ds := by
  induction before, cs using dropUnderscores.induct generalizing ds with
  | case1 before =>
      cases h
      exact .inl ⟨rfl, rfl⟩
  | case2 before d tail hcond ih =>
      rw [dropUnderscores, if_pos hcond] at h
      rw [Bool.and_eq_true] at hcond
      rcases ih h hds with ⟨hnil, -⟩ | hgroup | ⟨hbefore, -⟩
      · cases hnil
      · exact .inr (.inr ⟨hcond.1, d :: tail, rfl, hgroup⟩)
      · cases hbefore
  | case3 before d tail hcond =>
      rw [dropUnderscores, if_neg hcond] at h
      cases h
  | case4 before => cases h
  | case5 before c cs hc ih =>
      rw [dropUnderscores_cons hc] at h
      obtain ⟨more, hmore, rfl⟩ := Option.map_eq_some_iff.1 h
      obtain ⟨hdigit, hrest⟩ := List.forall_mem_cons.1 hds
      rcases ih hmore hrest with ⟨rfl, rfl⟩ | hgroup | ⟨-, rest, rfl, hgroup⟩
      · exact .inr (.inl (.last hdigit))
      · exact .inr (.inl (.digit hdigit hgroup))
      · exact .inr (.inl (.apart hdigit hgroup))

theorem isGrouped_iff {cs ds : List Char} :
    IsGrouped Char.isDigit cs ds ↔
      dropUnderscores false cs = some ds ∧ ds ≠ [] ∧ ∀ c ∈ ds, c.isDigit = true := by
  constructor
  · exact fun h => ⟨dropUnderscores_of_isGrouped h false, h.ne_nil, h.all⟩
  · rintro ⟨h, hne, hds⟩
    rcases isGrouped_of_dropUnderscores h hds with ⟨-, hnil⟩ | hgroup | ⟨hbefore, -⟩
    · exact absurd hnil hne
    · exact hgroup
    · cases hbefore

/-! ### ASCII forms -/

/-- The ASCII form of a character. -/
def asciiOf (c : Char) : Char :=
  match Text.digitValue? c with
  | some d => Char.ofNat (48 + d)
  | none => c

theorem toAscii_cons (c : Char) (cs : List Char) : toAscii (c :: cs) = asciiOf c :: toAscii cs :=
  rfl

theorem digitValue?_of_isDigit {c : Char} (h : c.isDigit = true) :
    Text.digitValue? c = some (c.toNat - 48) := by
  have hlt : c.toNat < 128 := by
    simp only [Char.isDigit, Bool.and_eq_true, decide_eq_true_eq] at h
    have hle : c.toNat ≤ 57 := UInt32.le_iff_toNat_le.1 h.2
    omega
  rw [Text.digitValue?, if_pos hlt, if_pos h]

theorem isDecimal_of_isDigit {c : Char} (h : c.isDigit = true) : Text.isDecimal c = true := by
  rw [Text.isDecimal, digitValue?_of_isDigit h]
  rfl

theorem asciiOf_of_not_decimal {c : Char} (h : Text.isDecimal c = false) : asciiOf c = c := by
  unfold Text.isDecimal at h
  rw [Option.isSome_eq_false_iff, Option.isNone_iff_eq_none] at h
  rw [asciiOf, h]

theorem isDigit_asciiOf (c : Char) : (asciiOf c).isDigit = Text.isDecimal c := by
  cases h : Text.isDecimal c with
  | true =>
      obtain ⟨d, hd⟩ := Option.isSome_iff_exists.1 h
      rw [asciiOf, hd]
      exact Text.isDigit_ofNat (Text.digitValue?_lt hd)
  | false =>
      rw [asciiOf_of_not_decimal h, Bool.eq_false_iff]
      intro hc
      rw [isDecimal_of_isDigit hc] at h
      cases h

/-- What is no digit is its own ASCII form, and that of nothing else. -/
theorem asciiOf_eq_iff {c m : Char} (hm : Text.isDecimal m = false) : asciiOf c = m ↔ c = m := by
  constructor
  · rintro rfl
    have hc : Text.isDecimal c = false := by
      rw [← isDigit_asciiOf, Bool.eq_false_iff]
      exact fun hdigit => by simp [isDecimal_of_isDigit hdigit] at hm
    rw [asciiOf_of_not_decimal hc]
  · rintro rfl
    exact asciiOf_of_not_decimal hm

/-- The groups of digits in the ASCII form are those of the text. -/
theorem isGrouped_toAscii_iff {cs es : List Char} :
    IsGrouped Char.isDigit (toAscii cs) es ↔
      ∃ ds, IsGrouped Text.isDecimal cs ds ∧ toAscii ds = es := by
  have hmark : Text.isDecimal '_' = false := by decide
  constructor
  · intro h
    obtain ⟨as, has⟩ : ∃ as, as = toAscii cs := ⟨_, rfl⟩
    rw [← has] at h
    induction h generalizing cs with
    | last hc =>
        obtain ⟨d, ds, rfl, rfl, hds⟩ := List.map_eq_cons_iff.1 has.symm
        rw [List.map_eq_nil_iff.1 hds]
        exact ⟨[d], .last ((isDigit_asciiOf d).symm.trans hc), rfl⟩
    | digit hc _ ih =>
        obtain ⟨d, rest, rfl, rfl, hrest⟩ := List.map_eq_cons_iff.1 has.symm
        obtain ⟨ds, hds, rfl⟩ := ih hrest.symm
        exact ⟨d :: ds, .digit ((isDigit_asciiOf d).symm.trans hc) hds, rfl⟩
    | apart hc _ ih =>
        obtain ⟨d, rest, rfl, rfl, hrest⟩ := List.map_eq_cons_iff.1 has.symm
        obtain ⟨u, more, rfl, hu, hmore⟩ := List.map_eq_cons_iff.1 hrest
        obtain ⟨ds, hds, rfl⟩ := ih hmore.symm
        obtain rfl : u = '_' := (asciiOf_eq_iff hmark).1 hu
        exact ⟨d :: ds, .apart ((isDigit_asciiOf d).symm.trans hc) hds, rfl⟩
  · rintro ⟨ds, h, rfl⟩
    induction h with
    | last hc => exact .last ((isDigit_asciiOf _).trans hc)
    | digit hc _ ih => exact .digit ((isDigit_asciiOf _).trans hc) ih
    | apart hc _ ih =>
        rw [toAscii_cons, toAscii_cons, (asciiOf_eq_iff hmark).2 rfl]
        exact .apart ((isDigit_asciiOf _).trans hc) ih

theorem signs_toAscii_iff {cs sign body : List Char} (hsign : sign ∈ signs) :
    toAscii cs = sign ++ body ↔ ∃ rest, cs = sign ++ rest ∧ toAscii rest = body := by
  constructor
  · intro h
    obtain ⟨lead, rest, rfl, hlead, rfl⟩ := List.map_eq_append_iff.1 h
    refine ⟨rest, ?_, rfl⟩
    simp only [signs, List.mem_cons, List.not_mem_nil, or_false] at hsign
    rcases hsign with rfl | rfl | rfl
    · rw [List.map_eq_nil_iff.1 hlead]
    · obtain ⟨d, ds, rfl, hd, hds⟩ := List.map_eq_cons_iff.1 hlead
      rw [List.map_eq_nil_iff.1 hds, (asciiOf_eq_iff (by decide)).1 hd]
    · obtain ⟨d, ds, rfl, hd, hds⟩ := List.map_eq_cons_iff.1 hlead
      rw [List.map_eq_nil_iff.1 hds, (asciiOf_eq_iff (by decide)).1 hd]
  · rintro ⟨rest, rfl, rfl⟩
    rw [toAscii_append, toAscii_of_signs hsign]

/-! ### Values -/

theorem ofDigits_eq (base : Nat) (digits : List Nat) :
    Text.ofDigits base digits = Nat.ofDigits base digits.reverse := by
  induction digits using List.reverseRecOn with
  | nil => rfl
  | append_singleton digits d ih =>
      rw [Text.ofDigits_append_singleton, ih, List.reverse_append, List.reverse_singleton,
        List.singleton_append, Nat.ofDigits_cons, Nat.mul_comm, Nat.add_comm]

theorem digitsValue_toAscii {ds : List Char} (h : ∀ c ∈ ds, Text.isDecimal c = true) :
    digitsValue (toAscii ds) = valueOf ds := by
  have hvalues : (toAscii ds).map (fun c => c.toNat - 48) = ds.filterMap Text.digitValue? := by
    induction ds with
    | nil => rfl
    | cons c ds ih =>
        obtain ⟨hc, hds⟩ := List.forall_mem_cons.1 h
        obtain ⟨d, hd⟩ := Option.isSome_iff_exists.1 hc
        have hall : ∀ d < 10, (Char.ofNat (48 + d)).toNat - 48 = d := by decide
        rw [List.filterMap_cons_some hd, toAscii_cons, List.map_cons, ih hds, asciiOf, hd]
        exact congrArg (· :: _) (hall d (Text.digitValue?_lt hd))
  rw [digitsValue, hvalues, ofDigits_eq, valueOf]

/-! ### Integers -/

theorem takeSign_eq {sign cs : List Char} (hsign : sign ∈ signs)
    (h : ∀ c ∈ cs.head?, c ≠ '-' ∧ c ≠ '+') :
    takeSign (sign ++ cs) = (decide (sign = ['-']), cs) := by
  simp only [signs, List.mem_cons, List.not_mem_nil, or_false] at hsign
  rcases hsign with rfl | rfl | rfl
  · rw [List.nil_append, takeSign_of_no_sign]
    · rfl
    · rintro rest rfl
      exact (h '-' rfl).1 rfl
    · rintro rest rfl
      exact (h '+' rfl).2 rfl
  · rfl
  · rfl

theorem exists_takeSign (cs : List Char) : ∃ sign ∈ signs, ∃ body,
    cs = sign ++ body ∧ takeSign cs = (decide (sign = ['-']), body) := by
  unfold takeSign
  split
  · exact ⟨['-'], by decide, _, rfl, rfl⟩
  · exact ⟨['+'], by decide, _, rfl, rfl⟩
  · exact ⟨[], by decide, _, rfl, rfl⟩

/-- Characters are an integer if they are a sign with digits in groups, and not too many. -/
theorem integerChars?_eq_some_iff {cs : List Char} {n : Int} :
    integerChars? cs = some n ↔ ∃ sign body ds, sign ∈ signs ∧ cs = sign ++ body ∧
      IsGrouped Char.isDigit body ds ∧ ds.length ≤ digitLimit ∧
      n = signed sign (digitsValue ds) := by
  have hread {sign : List Char} (body : List Char)
      (h : takeSign cs = (decide (sign = ['-']), body)) :
      integerChars? cs = some n ↔ ∃ ds, IsGrouped Char.isDigit body ds ∧ ds.length ≤ digitLimit ∧
        n = signed sign (digitsValue ds) := by
    unfold integerChars?
    rw [h]
    change (dropUnderscores false body >>= fun ds => _) = some n ↔ _
    rw [Option.bind_eq_bind, Option.bind_eq_some_iff]
    refine exists_congr fun ds => ?_
    rw [isGrouped_iff, and_assoc, and_assoc]
    refine and_congr_right fun _ => ?_
    simp only [Bool.or_eq_true, List.isEmpty_iff, Bool.not_eq_true', decide_eq_true_eq]
    have hcond : ¬ ((ds = [] ∨ ds.all Char.isDigit = false) ∨ digitLimit < ds.length) ↔
        ds ≠ [] ∧ (∀ c ∈ ds, c.isDigit = true) ∧ ds.length ≤ digitLimit := by
      rw [not_or, not_or, Bool.not_eq_false, List.all_eq_true, not_lt, and_assoc]
    split
    · rename_i hfail
      exact iff_of_false (by simp) fun h => hcond.2 ⟨h.1, h.2.1, h.2.2.1⟩ hfail
    · rename_i hread
      obtain ⟨hne, hall, hlimit⟩ := hcond.1 hread
      rw [Option.some.injEq, eq_comm]
      exact ⟨fun h => ⟨hne, hall, hlimit, h⟩, fun h => h.2.2.2⟩
  constructor
  · intro h
    obtain ⟨sign, hsign, body, hcs, htake⟩ := exists_takeSign cs
    obtain ⟨ds, hds, hlimit, hn⟩ := (hread body htake).1 h
    exact ⟨sign, body, ds, hsign, hcs, hds, hlimit, hn⟩
  · rintro ⟨sign, body, ds, hsign, rfl, hds, hlimit, hn⟩
    refine (hread body (takeSign_eq hsign fun c hc => ?_)).2 ⟨ds, hds, hlimit, hn⟩
    obtain ⟨d, rest, rfl, hd⟩ := hds.exists_head
    have hdigit : ∀ e ∈ [d], e.isDigit = true := by simpa using hd
    exact not_sign_of_isDigit hdigit c hc

theorem trim_eq_iff {s : String} {cs : List Char} : trim s.toList = cs ↔
    Text.TrimmedOf isPadding s.toList cs :=
  Text.trimmedOf_iff.symm

/-- A text is read as an integer exactly if it denotes it, with no more digits than are allowed. -/
theorem int?_eq_some_iff {s : String} {n : Int} :
    int? s = some n ↔ ∃ ds, IsInteger s n ds ∧ ds.length ≤ digitLimit := by
  unfold int?
  rw [integerChars?_eq_some_iff]
  constructor
  · rintro ⟨sign, body, es, hsign, hcs, hes, hlimit, rfl⟩
    obtain ⟨rest, hrest, rfl⟩ := (signs_toAscii_iff hsign).1 hcs
    obtain ⟨ds, hds, rfl⟩ := isGrouped_toAscii_iff.1 hes
    rw [length_toAscii] at hlimit
    rw [digitsValue_toAscii hds.all]
    exact ⟨ds, ⟨sign, rest, hsign, hds, trim_eq_iff.1 hrest, rfl⟩, hlimit⟩
  · rintro ⟨ds, ⟨sign, body, hsign, hds, htrim, rfl⟩, hlimit⟩
    refine ⟨sign, toAscii body, toAscii ds, hsign, ?_, isGrouped_toAscii_iff.2 ⟨ds, hds, rfl⟩, ?_,
      ?_⟩
    · rw [trim_eq_iff.2 htrim]
      exact (signs_toAscii_iff hsign).2 ⟨body, rfl, rfl⟩
    · rwa [length_toAscii]
    · rw [digitsValue_toAscii hds.all]

/-- A run of digits of any script is read as the number that it writes. -/
theorem integerChars?_toAscii {ds : List Char} (hne : ds ≠ [])
    (h : ∀ c ∈ ds, Text.isDecimal c = true) (hlimit : ds.length ≤ digitLimit) :
    integerChars? (toAscii ds) = some (valueOf ds : Int) := by
  rw [integerChars?_eq_some_iff]
  refine ⟨[], toAscii ds, toAscii ds, by decide, rfl, ?_, by rwa [length_toAscii], ?_⟩
  · exact isGrouped_toAscii_iff.2 ⟨ds, .of_all hne h, rfl⟩
  · rw [digitsValue_toAscii h]
    rfl

/-! ### The text of an integer -/

theorem valueOf_toDigits (n : Nat) : valueOf (Nat.toDigits 10 n) = n := by
  have hvalues {ds : List Char} (h : ∀ c ∈ ds, c.isDigit = true) :
      ds.filterMap Text.digitValue? = ds.map fun c => c.toNat - 48 := by
    rw [← List.filterMap_eq_map]
    exact List.filterMap_congr fun c hc => digitValue?_of_isDigit (h c hc)
  have hdigits : ∀ c ∈ Nat.toDigits 10 n, c.isDigit = true :=
    fun _ hc => Nat.isDigit_of_mem_toDigits (by omega) (by omega) hc
  have hfold := Nat.ofDigitChars_ten_toDigits (n := n)
  rw [Nat.ofDigitChars_eq_foldl] at hfold
  rw [valueOf, hvalues hdigits, ← ofDigits_eq, Text.ofDigits, List.foldl_map]
  simp only [Nat.mul_comm 10] at hfold
  exact hfold

theorem toList_toString (n : Int) :
    (toString n).toList = (if n < 0 then ['-'] else []) ++ Nat.toDigits 10 n.natAbs := by
  have htext : toString n = if 0 ≤ n then n.toNat.repr else "-" ++ (-n).toNat.repr :=
    Int.repr_eq_if
  rw [htext]
  by_cases h : 0 ≤ n
  · rw [if_pos h, if_neg (by omega), Nat.toList_repr, List.nil_append]
    congr 1
    omega
  · rw [if_neg h, if_pos (by omega), String.toList_append, Nat.toList_repr]
    congr 2
    omega

/-- The text of an integer denotes it. -/
theorem isInteger_toString (n : Int) : IsInteger (toString n) n (Nat.toDigits 10 n.natAbs) := by
  have hdigits : ∀ c ∈ Nat.toDigits 10 n.natAbs, Text.isDecimal c = true := fun c hc =>
    isDecimal_of_isDigit (Nat.isDigit_of_mem_toDigits (by omega) (by omega) hc)
  obtain ⟨sign, hsign⟩ : ∃ sign, sign = if n < 0 then ['-'] else [] := ⟨_, rfl⟩
  have hmem : sign ∈ signs := by
    rw [hsign]
    split <;> decide
  have hsolid : ∀ c ∈ sign ++ Nat.toDigits 10 n.natAbs, isPadding c = false := by
    intro c hc
    have hblank : Text.isBlank c = false := by
      rcases List.mem_append.1 hc with hc | hc
      · have hmarks : marks.all (fun c => !Text.isBlank c) = true := by decide
        simpa using List.all_eq_true.1 hmarks c (mem_marks_of_signs hmem c hc)
      · rw [Bool.eq_false_iff]
        intro hb
        have hdecimal := hdigits c hc
        rw [Text.isDecimal_of_isBlank hb] at hdecimal
        cases hdecimal
    rw [isPadding, hblank, Bool.false_and]
  refine ⟨sign, Nat.toDigits 10 n.natAbs, hmem, .of_all Nat.toDigits_ne_nil hdigits,
    ⟨⟨[], [], ?_, by simp⟩, fun c hc => hsolid c (List.mem_of_mem_head? hc),
      fun c hc => hsolid c (List.mem_of_getLast? hc)⟩, ?_⟩
  · rw [toList_toString, hsign, List.nil_append, List.append_nil]
  · rw [valueOf_toDigits, signed, hsign]
    by_cases h : n < 0
    · rw [if_pos h, if_pos rfl]
      omega
    · rw [if_neg h, if_neg (by decide)]
      omega

end Numeral

end Stagecraft
