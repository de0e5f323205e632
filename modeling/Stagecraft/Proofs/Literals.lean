import Stagecraft.Proofs.Integers
import Stagecraft.Proofs.Magnitudes

/-!
# What attribute values write

A text is a literal if it has the parts of a real numeral: a sign, digits with a fraction, and an
exponent, with blanks around it. Its parts write a magnitude, exactly. The texts that are taken for
numerals are the literals (`isNumeral_iff`), and each is read as a number of its sign, infinite only
where the magnitude is out of range. So every value of an attribute that a document can have is a
truth value, a number or a text, by what is written (`writes_of_parseValue`).
-/

namespace Stagecraft

open Markup

namespace Numeral

/-- The integer that an exponent writes, with none for zero. -/
inductive WritesExponent : List Char → ℤ → Prop
  | none : WritesExponent [] 0
  | some {e : Char} {sign ds : List Char} (he : e = 'e' ∨ e = 'E') (hsign : sign ∈ signs)
      (hne : ds ≠ []) (h : ∀ c ∈ ds, Text.isDecimal c = true) :
      WritesExponent (e :: (sign ++ ds)) (signed sign (valueOf ds))

/-- The digits and the scale that the parts of a numeral write behind a sign. -/
inductive WritesReal : List Char → Bool → ℕ → ℤ → Prop
  | mk {sign whole point fraction exponent : List Char} {k : ℤ} (hsign : sign ∈ signs)
      (hwhole : ∀ c ∈ whole, Text.isDecimal c = true)
      (hpoint : IsFraction Text.isDecimal point fraction) (hexponent : WritesExponent exponent k)
      (hne : whole ≠ [] ∨ fraction ≠ []) :
      WritesReal (sign ++ (whole ++ (point ++ exponent))) (sign = ['-'])
        (valueOf (whole ++ fraction)) (k - fraction.length)

/-- A text is a literal with this magnitude. -/
def IsLiteral (s : String) (magnitude : ℚ) : Prop :=
  ∃ lead body tail negative digits scale, s.toList = lead ++ (body ++ tail) ∧
    (∀ c ∈ lead, Text.isBlank c = true) ∧ (∀ c ∈ tail, Text.isBlank c = true) ∧
    WritesReal body negative digits scale ∧ magnitude = digits * 10 ^ scale

theorem WritesExponent.isExponent {cs : List Char} {k : ℤ} (h : WritesExponent cs k) :
    IsExponent Text.isDecimal cs := by
  cases h with
  | none => exact .none
  | some he hsign hne h => exact .some he hsign hne h

theorem exists_writesExponent {cs : List Char} (h : IsExponent Text.isDecimal cs) :
    ∃ k, WritesExponent cs k := by
  cases h with
  | none => exact ⟨0, .none⟩
  | some he hsign hne h => exact ⟨_, .some he hsign hne h⟩

theorem WritesReal.isReal {cs : List Char} {negative : Bool} {digits : ℕ} {scale : ℤ}
    (h : WritesReal cs negative digits scale) : IsReal Text.isDecimal cs := by
  obtain ⟨hsign, hwhole, hpoint, hexponent, hne⟩ := h
  exact .mk hsign hwhole hpoint hexponent.isExponent hne

theorem exists_writesReal {cs : List Char} (h : IsReal Text.isDecimal cs) :
    ∃ negative digits scale, WritesReal cs negative digits scale := by
  obtain ⟨hsign, hwhole, hpoint, hexponent, hne⟩ := h
  obtain ⟨k, hk⟩ := exists_writesExponent hexponent
  exact ⟨_, _, _, .mk hsign hwhole hpoint hk hne⟩

theorem IsFraction.all {isDigit : Char → Bool} {point fraction : List Char}
    (h : IsFraction isDigit point fraction) : ∀ c ∈ fraction, isDigit c = true := by
  cases h with
  | none => exact fun _ hc => nomatch hc
  | some hds => exact hds

/-! ### Reading the parts -/

theorem asciiOf_of_mark {e : Char} (he : e = 'e' ∨ e = 'E') : asciiOf e = e := by
  rcases he with rfl | rfl <;> decide

theorem exponent?_toAscii {cs : List Char} {k : ℤ} (h : WritesExponent cs k) :
    exponent? (toAscii cs) = some k := by
  cases h with
  | none => rfl
  | @some e sign ds he hsign hne h =>
      have hmark : (e = 'e' || e = 'E') = true := by simpa using he
      have hdigits := isDigit_of_mem_toAscii h
      have htake := takeSign_eq hsign (not_sign_of_isDigit hdigits)
      have hall : (toAscii ds).all Char.isDigit = true := List.all_eq_true.2 hdigits
      have hempty : (toAscii ds).isEmpty = false := by
        rwa [List.isEmpty_eq_false_iff, Ne, toAscii_eq_nil_iff]
      rw [toAscii_cons, asciiOf_of_mark he, toAscii_append, toAscii_of_signs hsign]
      unfold exponent?
      dsimp only
      rw [if_pos hmark, htake]
      dsimp only
      rw [hempty, hall, digitsValue_toAscii h]
      simp [signed]

theorem unsigned?_eq {whole point fraction exponent : List Char} {k : ℤ}
    (hwhole : ∀ c ∈ whole, c.isDigit = true) (hpoint : IsFraction Char.isDigit point fraction)
    (hhead : ∀ c ∈ exponent.head?, c.isDigit = false ∧ c ≠ '.')
    (hexponent : exponent? exponent = some k) (hne : whole ≠ [] ∨ fraction ≠ []) (negative : Bool) :
    unsigned? negative (whole ++ (point ++ exponent)) =
      some (.finite negative (digitsValue (whole ++ fraction)) (k - fraction.length)) := by
  have hempty : (whole.isEmpty && fraction.isEmpty) = false := by
    rw [Bool.and_eq_false_iff, List.isEmpty_eq_false_iff, List.isEmpty_eq_false_iff]
    exact hne
  have hdigit : ∀ c ∈ exponent.head?, c.isDigit = false := fun c hc => (hhead c hc).1
  unfold unsigned?
  cases hpoint with
  | none =>
      rw [List.nil_append, takeDigits_eq hwhole hdigit]
      dsimp only
      split
      · exact absurd rfl (hhead '.' rfl).2
      · dsimp only
        rw [hempty, hexponent]
        rfl
  | some hds =>
      rw [List.cons_append, takeDigits_eq hwhole (by simp)]
      simp only [takeDigits_eq hds hdigit]
      rw [hempty, hexponent]
      rfl

theorem toLower_of_isDigit {c : Char} (h : c.isDigit = true) : c.toLower = c := by
  simp only [Char.isDigit, Bool.and_eq_true, decide_eq_true_eq] at h
  have hle : c.val ≤ '9'.val := h.2
  have hlt : '9'.val < 'A'.val := by decide
  exact dif_neg fun hupper => UInt32.not_le.2 (UInt32.lt_of_le_of_lt hle hlt) hupper.1

/-- The words for what is not finite have a letter that no numeral has. -/
theorem ne_word_of_mem {cs : List Char} (h : ∀ c ∈ cs, c.isDigit = true ∨ c ∈ marks)
    {word : String} (hword : 'n' ∈ word.toList) : String.ofList (cs.map Char.toLower) ≠ word := by
  rintro rfl
  rw [String.toList_ofList] at hword
  obtain ⟨c, hc, hlower⟩ := List.mem_map.1 hword
  rcases h c hc with hdigit | hmark
  · rw [toLower_of_isDigit hdigit] at hlower
    rw [hlower] at hdigit
    exact absurd hdigit (by decide)
  · have hmarks : marks.all (fun c => c.toLower != 'n') = true := by decide
    simpa [hlower] using List.all_eq_true.1 hmarks c hmark

theorem WritesExponent.head_toAscii {cs : List Char} {k : ℤ} (h : WritesExponent cs k) :
    ∀ c ∈ (toAscii cs).head?, c.isDigit = false ∧ c ≠ '.' := by
  cases h with
  | none => exact fun _ hc => nomatch hc
  | some he _ _ _ =>
      rw [toAscii_cons, asciiOf_of_mark he]
      intro c hc
      cases hc
      rcases he with rfl | rfl <;> decide

theorem plain?_toAscii {cs : List Char} {negative : Bool} {digits : ℕ} {scale : ℤ}
    (h : WritesReal cs negative digits scale) :
    plain? (toAscii cs) = some (.finite negative digits scale) := by
  have hmem := h.isReal.toAscii.mem
  obtain ⟨hsign, hwhole, hpoint, hexponent, hne⟩ := h
  rename_i sign whole point fraction exponent k
  have hall : ∀ c ∈ whole ++ fraction, Text.isDecimal c = true :=
    List.forall_mem_append.2 ⟨hwhole, hpoint.all⟩
  have hwhole' := isDigit_of_mem_toAscii hwhole
  have hne' : toAscii whole ≠ [] ∨ toAscii fraction ≠ [] := by
    rwa [Ne, toAscii_eq_nil_iff, Ne, toAscii_eq_nil_iff]
  have hbody := takeSign_eq hsign
    (head_not_sign (by decide) (by decide) hwhole' hpoint.toAscii hne' (toAscii exponent))
  have hread := unsigned?_eq hwhole' hpoint.toAscii hexponent.head_toAscii
    (exponent?_toAscii hexponent) hne' (decide (sign = ['-']))
  rw [← toAscii_append whole fraction, digitsValue_toAscii hall, length_toAscii] at hread
  rw [toAscii_append, toAscii_append, toAscii_append, toAscii_of_signs hsign] at hmem ⊢
  have hword (word : String) (hn : 'n' ∈ word.toList) :=
    ne_word_of_mem (List.forall_mem_append.1 hmem).2 hn
  unfold plain?
  rw [hbody]
  dsimp only
  rw [if_neg, if_neg (hword "nan" (by decide))]
  · exact hread
  · rw [Bool.or_eq_true, decide_eq_true_eq, decide_eq_true_eq, not_or]
    exact ⟨hword "inf" (by decide), hword "infinity" (by decide)⟩

/-- Unless there are information separators in it, a literal is read as the number that its digits
and its scale are rounded to. -/
theorem exists_float?_of_isLiteral {s : String} {magnitude : ℚ} (h : IsLiteral s magnitude)
    (hclean : ∀ c ∈ s.toList, ¬ (28 ≤ c.toNat ∧ c.toNat < 32)) :
    ∃ (negative : Bool) (digits : ℕ) (scale : ℤ), magnitude = digits * 10 ^ scale ∧
      float? s = some (Decimal.finite negative digits scale).toFloat := by
  obtain ⟨lead, body, tail, negative, digits, scale, hs, hlead, htail, hbody, hmagnitude⟩ := h
  refine ⟨negative, digits, scale, hmagnitude, ?_⟩
  unfold float? decimal?
  rw [trim_of_isReal hs hlead htail hbody.isReal hclean,
    dropUnderscores_of_not_mem hbody.isReal.toAscii.underscore_not_mem, Option.bind_some,
    plain?_toAscii hbody]
  rfl

end Numeral

namespace TraitMaker

open Numeral

/-! ### Recognizing literals -/

theorem takeWhile_isDecimal {ds rest : List Char} (h : ∀ c ∈ ds, Text.isDecimal c = true)
    (hrest : ∀ c ∈ rest.head?, Text.isDecimal c = false) :
    (ds ++ rest).takeWhile Text.isDecimal = ds ∧ (ds ++ rest).dropWhile Text.isDecimal = rest := by
  rw [List.takeWhile_append_of_pos h, List.dropWhile_append_of_pos h]
  cases rest with
  | nil => simp
  | cons c rest =>
      have hc : Text.isDecimal c = false := hrest c rfl
      simp [hc]

theorem isNumeral_eq (s : String) : isNumeral s =
    (let cs := (takeSign (s.toList.dropWhile Text.isBlank)).2
     !((cs.takeWhile Text.isDecimal).isEmpty &&
          (fractionOf (cs.dropWhile Text.isDecimal)).1.isEmpty) &&
        (afterExponent (fractionOf (cs.dropWhile Text.isDecimal)).2).all Text.isBlank) := rfl

/-- What may follow the digits of a numeral: an exponent, or blanks. -/
theorem head_not_decimal {exponent tail : List Char} (h : IsExponent Text.isDecimal exponent)
    (htail : ∀ c ∈ tail, Text.isBlank c = true) :
    ∀ c ∈ (exponent ++ tail).head?, Text.isDecimal c = false ∧ c ≠ '.' := by
  intro c hc
  cases h with
  | none =>
      have hblank := htail c (List.mem_of_mem_head? hc)
      refine ⟨Text.isDecimal_of_isBlank hblank, ?_⟩
      rintro rfl
      exact absurd hblank (by decide)
  | some he _ _ _ =>
      cases hc
      rcases he with rfl | rfl <;> decide

theorem fractionOf_append {point fraction rest : List Char}
    (h : IsFraction Text.isDecimal point fraction)
    (hrest : ∀ c ∈ rest.head?, Text.isDecimal c = false ∧ c ≠ '.') :
    fractionOf (point ++ rest) = (fraction, rest) := by
  cases h with
  | none =>
      unfold fractionOf
      split
      · rename_i heq
        exact absurd rfl (hrest '.' (by rw [List.nil_append] at heq; rw [heq]; rfl)).2
      · rfl
  | some hds =>
      have hsplit := takeWhile_isDecimal hds fun c hc => (hrest c hc).1
      exact Prod.ext hsplit.1 hsplit.2

theorem afterExponent_append {exponent tail : List Char} (h : IsExponent Text.isDecimal exponent)
    (htail : ∀ c ∈ tail, Text.isBlank c = true) : afterExponent (exponent ++ tail) = tail := by
  have hdecimal : ∀ c ∈ tail.head?, Text.isDecimal c = false := fun c hc =>
    Text.isDecimal_of_isBlank (htail c (List.mem_of_mem_head? hc))
  cases h with
  | none =>
      rw [List.nil_append]
      unfold afterExponent
      split
      · rename_i c more
        have hc := htail c List.mem_cons_self
        rw [if_neg]
        rw [Bool.and_eq_true, Bool.or_eq_true, decide_eq_true_eq, decide_eq_true_eq]
        rintro ⟨rfl | rfl, -⟩
        · exact absurd hc (by decide)
        · exact absurd hc (by decide)
      · rfl
  | @some e sign ds he hsign hne hds =>
      have hmark : (e = 'e' || e = 'E') = true := by simpa using he
      obtain ⟨d, ds, rfl⟩ := List.exists_cons_of_ne_nil hne
      have hd : Text.isDecimal d = true := hds d List.mem_cons_self
      have hhead : ∀ c ∈ (d :: ds ++ tail).head?, c ≠ '-' ∧ c ≠ '+' := by
        intro c hc
        cases hc
        constructor
        · rintro rfl
          exact absurd hd (by decide)
        · rintro rfl
          exact absurd hd (by decide)
      have htake := takeSign_append hsign hhead
      rw [List.cons_append, List.append_assoc]
      unfold afterExponent
      dsimp only
      rw [htake, hmark]
      rw [if_pos (by simpa using hd)]
      exact (takeWhile_isDecimal hds hdecimal).2

/-- The texts that are taken for numerals are the literals. -/
theorem isNumeral_iff {s : String} : isNumeral s = true ↔ ∃ q, IsLiteral s q := by
  constructor
  · intro h
    obtain ⟨lead, body, tail, hs, hlead, htail, hbody⟩ := isReal_of_isNumeral h
    obtain ⟨negative, digits, scale, hwrites⟩ := exists_writesReal hbody
    exact ⟨_, lead, body, tail, negative, digits, scale, hs, hlead, htail, hwrites, rfl⟩
  · rintro ⟨_, lead, body, tail, _, _, _, hs, hlead, htail, hwrites, -⟩
    have hreal := hwrites.isReal
    have hsolid : ∀ c ∈ (body ++ tail).head?, Text.isBlank c = false := by
      intro c hc
      obtain ⟨d, rest, rfl⟩ := List.exists_cons_of_ne_nil hreal.ne_nil
      cases hc
      exact hreal.not_isBlank List.mem_cons_self
    have hdrop : s.toList.dropWhile Text.isBlank = body ++ tail := by
      rw [hs, List.dropWhile_append_of_pos hlead]
      cases hrest : body ++ tail with
      | nil => rfl
      | cons c rest =>
          rw [hrest] at hsolid
          have hc : Text.isBlank c = false := hsolid c rfl
          simp [hc]
    obtain ⟨hsign, hwhole, hpoint, hexponent, hne⟩ := hreal
    rename_i sign whole point fraction exponent
    have hnext := head_not_decimal hexponent htail
    have hpointed : ∀ c ∈ (point ++ (exponent ++ tail)).head?, Text.isDecimal c = false := by
      intro c hc
      cases hpoint with
      | none => exact (hnext c hc).1
      | some _ =>
          cases hc
          decide
    have htake : (takeSign (s.toList.dropWhile Text.isBlank)).2 =
        whole ++ (point ++ (exponent ++ tail)) := by
      rw [hdrop]
      simp only [List.append_assoc]
      exact takeSign_append hsign (head_not_sign (by decide) (by decide) hwhole hpoint hne _)
    have hsplit := takeWhile_isDecimal hwhole hpointed
    rw [isNumeral_eq]
    dsimp only
    rw [htake, hsplit.1, hsplit.2, fractionOf_append hpoint hnext]
    dsimp only
    rw [afterExponent_append hexponent htail, Bool.and_eq_true, Bool.not_eq_true',
      Bool.and_eq_false_iff, List.isEmpty_eq_false_iff, List.isEmpty_eq_false_iff, List.all_eq_true]
    exact ⟨hne, htail⟩

example : isNumeral "\u0660.5e-3 " = true := by decide

example : isNumeral "1_000" = false := by decide

/-! ### Values -/

/-- A text is the numeral of a number: it has this magnitude, it is read as this number wherever an
attribute has it, and the number is infinite just if the magnitude is out of range. -/
structure IsNumeralOf (s : String) (x : Float) (magnitude : ℚ) : Prop where
  numeral : isNumeral s = true
  literal : IsLiteral s magnitude
  float : float? s = some x
  real (c : Cursor) (name : String) (h : c.get? name = some s) : c.real? name = .ok (some x)
  number : x.isNaN = false
  infinite : x.isInf = true ↔ Binary64.overflow ≤ magnitude

/-- What a text writes as the value of a field. -/
inductive Writes (s : String) : Value → Prop
  | yes (h : s = "true") : Writes s (.truth true)
  | no (h : s = "false") : Writes s (.truth false)
  | real {x : Float} {magnitude : ℚ} (h : IsNumeralOf s x magnitude) : Writes s (.real x)
  | text (hyes : s ≠ "true") (hno : s ≠ "false") (h : isNumeral s = false) : Writes s (.text s)

theorem real?_of_float? {s : String} {x : Float} (h : float? s = some x)
    (hblank : Text.isAllBlank s = false) {c : Cursor} {name : String} (hc : c.get? name = some s) :
    c.real? name = .ok (some x) := by
  have hgiven : c.given? name = some s := by
    rw [Cursor.given?, hc, Option.filter_some, hblank]
    rfl
  rw [Cursor.real?, hgiven]
  dsimp only
  rw [h]

theorem isAllBlank_of_isLiteral {s : String} {q : ℚ} (h : IsLiteral s q) :
    Text.isAllBlank s = false := by
  obtain ⟨lead, body, tail, _, _, _, hs, -, -, hwrites, -⟩ := h
  obtain ⟨c, hc⟩ := List.exists_mem_of_ne_nil body hwrites.isReal.ne_nil
  rw [Text.isAllBlank, hs, List.all_eq_false]
  exact ⟨c, by simp [hc], by simp [hwrites.isReal.not_isBlank hc]⟩

/-- A clean text that is taken for a numeral is one. -/
theorem exists_isNumeralOf {s : String} (h : isNumeral s = true) (hclean : IsClean s.toList) :
    ∃ x q, IsNumeralOf s x q := by
  obtain ⟨q, hliteral⟩ := isNumeral_iff.1 h
  obtain ⟨negative, digits, scale, rfl, hfloat⟩ :=
    exists_float?_of_isLiteral hliteral (separator_not_mem hclean)
  refine ⟨_, _, h, hliteral, hfloat, fun c name hc => ?_, Decimal.isNaN_toFloat _ _ _,
    Decimal.isInf_toFloat_iff _ _ _⟩
  exact real?_of_float? hfloat (isAllBlank_of_isLiteral hliteral) hc

/-- Every text that an attribute can have is read as the value it writes: a truth value, a number
or, of all other texts, the text. -/
theorem writes_of_parseValue {s : String} (h : IsClean s.toList) :
    ∃ v, parseValue s = .ok v ∧ Writes s v := by
  unfold parseValue
  split
  · rename_i hyes
    exact ⟨_, rfl, .yes hyes⟩
  split
  · rename_i hno
    exact ⟨_, rfl, .no hno⟩
  rename_i hyes hno
  split
  · rename_i hnumeral
    obtain ⟨x, q, hx⟩ := exists_isNumeralOf hnumeral h
    rw [hx.float]
    exact ⟨_, rfl, .real hx⟩
  · rename_i hnumeral
    exact ⟨_, rfl, .text hyes hno (Bool.eq_false_iff.2 hnumeral)⟩

theorem writes_of_parseValue_large : IsClean "1e400".toList ∧
    ∃ v, parseValue "1e400" = .ok v ∧ Writes "1e400" v := by
  have hclean : IsClean "1e400".toList := List.all_eq_true.1 (by decide)
  exact ⟨hclean, writes_of_parseValue hclean⟩

end TraitMaker

end Stagecraft
