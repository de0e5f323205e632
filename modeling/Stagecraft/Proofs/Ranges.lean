import Mathlib.Data.Int.ModEq
import Stagecraft.Animation.FaceBinding
import Stagecraft.Proofs.Attempt
import Stagecraft.Proofs.Integers

/-!
# The quads of a face element

The texts of `index` and `range` are cut at commas. A part of the one that is not blank is an
integer, a part of the other is a range with both ends and perhaps a step, with blanks wherever the
digits do not touch. Here the two grammars are given as relations, and what is read from texts of
them as a list in increasing order that is known by its members. `quads_of_texts` puts both
attributes together.
-/

namespace Stagecraft

namespace FaceBinding

open Markup

/-- Some digits of any script. -/
def IsRun (ds : List Char) : Prop := ds ≠ [] ∧ ∀ c ∈ ds, Text.isDecimal c = true

/-- Blanks, or nothing. -/
def IsGap (cs : List Char) : Prop := ∀ c ∈ cs, Text.isBlank c = true

/-- Two runs of digits with a dash in between and perhaps a third one behind a slash, with gaps
around all of them. -/
inductive IsSpan : List Char → Span → Prop
  | whole {a b c d first last : List Char} (ha : IsGap a) (hfirst : IsRun first) (hb : IsGap b)
      (hc : IsGap c) (hlast : IsRun last) (hd : IsGap d) :
      IsSpan (a ++ (first ++ (b ++ '-' :: (c ++ (last ++ d))))) ⟨first, last, none⟩
  | stepped {a b c d e f first last step : List Char} (ha : IsGap a) (hfirst : IsRun first)
      (hb : IsGap b) (hc : IsGap c) (hlast : IsRun last) (hd : IsGap d) (he : IsGap e)
      (hstep : IsRun step) (hf : IsGap f) :
      IsSpan (a ++ (first ++ (b ++ '-' :: (c ++ (last ++ (d ++ '/' :: (e ++ (step ++ f))))))))
        ⟨first, last, some step⟩

namespace Span

/-- The runs of digits of a range. -/
def runs (s : Span) : List (List Char) := s.first :: s.last :: s.step.toList

/-- The step of a range, which is one unless it is written. -/
def stride (s : Span) : Nat := (s.step.map Numeral.valueOf).getD 1

end Span

/-- The numbers between two ends, both included, that are in step with the first; in increasing
order. -/
structure Steps (first last step : Int) (ns : List Int) : Prop where
  mem : ∀ n, n ∈ ns ↔ first ≤ n ∧ n ≤ last ∧ n ≡ first [ZMOD step]
  increasing : ns.Pairwise (· < ·)

/-- The numbers of a range. -/
def Spans (cs : List Char) (ns : List Int) : Prop :=
  ∃ s, IsSpan cs s ∧ Steps (Numeral.valueOf s.first) (Numeral.valueOf s.last) s.stride ns

/-- The parts of an attribute between commas. An attribute without a text has none. -/
def Parts (c : Cursor) (name : String) (parts : List String) : Prop :=
  match (c.get? name).filter (· ≠ "") with
  | none => parts = []
  | some text => Text.Cut ',' text parts

/-- A part that is no integer, though it is not blank. -/
def Misindexed (single : String) : Prop :=
  Text.isAllBlank single = false ∧ ∀ n digits, ¬Numeral.IsInteger single n digits

/-- A part that is no range. -/
def Misspanned (span : String) : Prop := ∀ s, ¬IsSpan span.toList s

/-- No number is too long to be read, and no step is zero. -/
structure Moderate (singles spans : List String) : Prop where
  single : ∀ single ∈ singles, ∀ n digits, Numeral.IsInteger single n digits →
    digits.length ≤ Numeral.digitLimit
  run : ∀ span ∈ spans, ∀ s, IsSpan span.toList s → ∀ digits ∈ s.runs,
    digits.length ≤ Numeral.digitLimit
  stride : ∀ span ∈ spans, ∀ s, IsSpan span.toList s → s.stride ≠ 0

/-! ### Tokens of a range -/

section Tokens

variable {cs rest ds : List Char}

theorem IsRun.not_blank (h : IsRun ds) : ∀ c ∈ ds.head?, Text.isBlank c = false := by
  intro c hc
  rw [Bool.eq_false_iff]
  intro hblank
  have hdecimal := h.2 c (List.mem_of_mem_head? hc)
  rw [Text.isDecimal_of_isBlank hblank] at hdecimal
  cases hdecimal

theorem isGap_iff : cs.all Text.isBlank = true ↔ IsGap cs := List.all_eq_true

theorem digits?_eq_some_iff : digits? cs = some (ds, rest) ↔
    ∃ gap, IsGap gap ∧ IsRun ds ∧ cs = gap ++ (ds ++ rest) ∧
      ∀ c ∈ rest.head?, Text.isDecimal c = false := by
  unfold digits?
  constructor
  · intro h
    have hgap := List.takeWhile_append_dropWhile (p := Text.isBlank) (l := cs)
    have hrun := List.takeWhile_append_dropWhile (p := Text.isDecimal)
      (l := cs.dropWhile Text.isBlank)
    dsimp only at h
    split at h
    · cases h
    · rename_i hne
      cases h
      rw [List.isEmpty_iff] at hne
      refine ⟨cs.takeWhile Text.isBlank, fun c hc => List.mem_takeWhile_imp hc,
        ⟨hne, fun c hc => List.mem_takeWhile_imp hc⟩, ?_, Text.head?_dropWhile _ _⟩
      rw [hrun, hgap]
  · rintro ⟨gap, hgap, hrun, rfl, hrest⟩
    have hhead : ∀ c ∈ (ds ++ rest).head?, Text.isBlank c = false := by
      intro c hc
      rw [List.head?_append_of_ne_nil _ hrun.1] at hc
      exact hrun.not_blank c hc
    dsimp only
    rw [Text.dropWhile_append_of_head hgap hhead, Text.takeWhile_append_of_head hrun.2 hrest,
      Text.dropWhile_append_of_head hrun.2 hrest, if_neg (by simp [hrun.1])]

theorem mark?_eq_some_iff {mark : Char} (hmark : Text.isBlank mark = false) :
    mark? mark cs = some rest ↔ ∃ gap, IsGap gap ∧ cs = gap ++ mark :: rest := by
  unfold mark?
  constructor
  · intro h
    have hgap := List.takeWhile_append_dropWhile (p := Text.isBlank) (l := cs)
    split at h
    · rename_i c tail htail
      split at h
      · rename_i hc
        cases h
        rw [htail, hc] at hgap
        exact ⟨cs.takeWhile Text.isBlank, fun c hc => List.mem_takeWhile_imp hc, hgap.symm⟩
      · cases h
    · cases h
  · rintro ⟨gap, hgap, rfl⟩
    rw [Text.dropWhile_append_of_head hgap (by simpa using hmark)]
    exact if_pos rfl

/-- A gap, in front of something else or of nothing, does not go on with a digit. -/
theorem not_decimal_of_isGap {gap : List Char} (hgap : IsGap gap)
    (hrest : ∀ c ∈ rest.head?, Text.isDecimal c = false) :
    ∀ c ∈ (gap ++ rest).head?, Text.isDecimal c = false := by
  cases gap with
  | nil => exact hrest
  | cons d gap =>
      intro c hc
      cases hc
      exact Text.isDecimal_of_isBlank (hgap _ List.mem_cons_self)

end Tokens

/-! ### Ranges -/

namespace Span

theorem ofChars?_eq_some_iff_exists {cs : List Char} {s : Span} : ofChars? cs = some s ↔
    ∃ first cs₁ cs₂ last cs₃, digits? cs = some (first, cs₁) ∧ mark? '-' cs₁ = some cs₂ ∧
      digits? cs₂ = some (last, cs₃) ∧
      ((IsGap cs₃ ∧ s = ⟨first, last, none⟩) ∨
        ∃ cs₄ step cs₅, mark? '/' cs₃ = some cs₄ ∧ digits? cs₄ = some (step, cs₅) ∧
          IsGap cs₅ ∧ s = ⟨first, last, some step⟩) := by
  have hnone {rest : List Char} (h : IsGap rest) : mark? '/' rest = none := by
    rw [mark?, List.dropWhile_eq_nil_iff.2 h]
  simp only [ofChars?, Option.bind_eq_bind, Option.bind_eq_some_iff, Prod.exists]
  constructor
  · rintro ⟨first, cs₁, h₁, cs₂, h₂, last, cs₃, h₃, h⟩
    refine ⟨first, cs₁, cs₂, last, cs₃, h₁, h₂, h₃, ?_⟩
    split at h
    · exact .inl ⟨isGap_iff.1 ‹_›, (Option.some.inj h).symm⟩
    · obtain ⟨cs₄, h₄, h⟩ := Option.bind_eq_some_iff.1 h
      obtain ⟨⟨step, cs₅⟩, h₅, h⟩ := Option.bind_eq_some_iff.1 h
      split at h
      · exact .inr ⟨cs₄, step, cs₅, h₄, h₅, isGap_iff.1 ‹_›, (Option.some.inj h).symm⟩
      · cases h
  · rintro ⟨first, cs₁, cs₂, last, cs₃, h₁, h₂, h₃,
      ⟨hgap, rfl⟩ | ⟨cs₄, step, cs₅, h₄, h₅, hgap, rfl⟩⟩
    · exact ⟨first, cs₁, h₁, cs₂, h₂, last, cs₃, h₃, by rw [if_pos (isGap_iff.2 hgap)]; rfl⟩
    · refine ⟨first, cs₁, h₁, cs₂, h₂, last, cs₃, h₃, ?_⟩
      rw [if_neg]
      · refine Option.bind_eq_some_iff.2 ⟨cs₄, h₄, Option.bind_eq_some_iff.2 ⟨(step, cs₅), h₅, ?_⟩⟩
        exact if_pos (isGap_iff.2 hgap)
      · intro hall
        rw [hnone (isGap_iff.1 hall)] at h₄
        cases h₄

/-- Characters are read as a range exactly if they are one. -/
theorem ofChars?_eq_some_iff {cs : List Char} {s : Span} :
    ofChars? cs = some s ↔ IsSpan cs s := by
  have hdash : Text.isBlank '-' = false := by decide
  have hslash : Text.isBlank '/' = false := by decide
  rw [ofChars?_eq_some_iff_exists]
  constructor
  · rintro ⟨first, cs₁, cs₂, last, cs₃, h₁, h₂, h₃, h⟩
    obtain ⟨a, ha, hfirst, rfl, -⟩ := digits?_eq_some_iff.1 h₁
    obtain ⟨b, hb, rfl⟩ := (mark?_eq_some_iff hdash).1 h₂
    obtain ⟨c, hc, hlast, rfl, -⟩ := digits?_eq_some_iff.1 h₃
    rcases h with ⟨hd, rfl⟩ | ⟨cs₄, step, cs₅, h₄, h₅, hf, rfl⟩
    · exact .whole ha hfirst hb hc hlast hd
    · obtain ⟨d, hd, rfl⟩ := (mark?_eq_some_iff hslash).1 h₄
      obtain ⟨e, he, hstep, rfl, -⟩ := digits?_eq_some_iff.1 h₅
      exact .stepped ha hfirst hb hc hlast hd he hstep hf
  · have hmark {m : Char} (rest : List Char) (hm : Text.isDecimal m = false) :
        ∀ c ∈ (m :: rest).head?, Text.isDecimal c = false := by
      intro c hc
      cases hc
      exact hm
    have hnil {gap : List Char} (hgap : IsGap gap) : ∀ c ∈ gap.head?, Text.isDecimal c = false :=
      fun c hc => Text.isDecimal_of_isBlank (hgap c (List.mem_of_mem_head? hc))
    intro h
    cases h with
    | @whole a b c d first last ha hfirst hb hc hlast hd =>
        exact ⟨first, _, _, last, d,
          digits?_eq_some_iff.2 ⟨a, ha, hfirst, rfl, not_decimal_of_isGap hb (hmark _ (by decide))⟩,
          (mark?_eq_some_iff hdash).2 ⟨b, hb, rfl⟩,
          digits?_eq_some_iff.2 ⟨c, hc, hlast, rfl, hnil hd⟩, .inl ⟨hd, rfl⟩⟩
    | @stepped a b c d e f first last step ha hfirst hb hc hlast hd he hstep hf =>
        exact ⟨first, _, _, last, _,
          digits?_eq_some_iff.2 ⟨a, ha, hfirst, rfl, not_decimal_of_isGap hb (hmark _ (by decide))⟩,
          (mark?_eq_some_iff hdash).2 ⟨b, hb, rfl⟩,
          digits?_eq_some_iff.2 ⟨c, hc, hlast, rfl, not_decimal_of_isGap hd (hmark _ (by decide))⟩,
          .inr ⟨_, step, f, (mark?_eq_some_iff hslash).2 ⟨d, hd, rfl⟩,
            digits?_eq_some_iff.2 ⟨e, he, hstep, rfl, hnil hf⟩, hf, rfl⟩⟩

theorem isRun_of_isSpan {cs : List Char} {s : Span} (h : IsSpan cs s) :
    ∀ ds ∈ s.runs, IsRun ds := by
  cases h with
  | whole _ hfirst _ _ hlast _ => simp [runs, hfirst, hlast]
  | stepped _ hfirst _ _ hlast _ _ hstep _ => simp [runs, hfirst, hlast, hstep]

theorem value_of_isRun {ds : List Char} (h : IsRun ds) (hlimit : ds.length ≤ Numeral.digitLimit) :
    value ds = .ok (Numeral.valueOf ds) := by
  rw [value, Numeral.integerChars?_toAscii h.1 h.2 hlimit]

/-- The numbers of a range are the ones in step with the first, up to the last one. -/
theorem steps_count (first last : Int) {step : Int} (hstep : 0 < step) :
    Steps first last step (count first last step) := by
  unfold count
  split
  · rename_i h
    refine ⟨fun n => ?_, .nil⟩
    constructor
    · intro hn
      cases hn
    · rintro ⟨hfirst, hlast, -⟩
      omega
  · rename_i h
    have hcount (i : Nat) : i ≤ (last - first).toNat / step.toNat ↔ step * i ≤ last - first := by
      rw [Nat.le_div_iff_mul_le (by omega), Int.le_toNat (by omega), Nat.cast_mul,
        Int.toNat_of_nonneg hstep.le, Int.mul_comm]
    refine ⟨fun n => ?_, ?_⟩
    · rw [List.mem_map]
      constructor
      · rintro ⟨i, hi, rfl⟩
        rw [List.mem_range, Nat.lt_succ_iff, hcount] at hi
        exact ⟨by nlinarith, by omega, (Int.modEq_iff_dvd.2 ⟨-i, by ring⟩)⟩
      · rintro ⟨hfirst, hlast, hmod⟩
        obtain ⟨k, hk⟩ := hmod.symm.dvd
        have hk' : 0 ≤ k := by
          by_contra hneg
          nlinarith
        lift k to Nat using hk'
        refine ⟨k, ?_, by omega⟩
        rw [List.mem_range, Nat.lt_succ_iff, hcount]
        omega
    · rw [List.pairwise_map]
      exact List.pairwise_lt_range.imp fun h => by nlinarith

end Span

/-! ### Attributes -/

theorem parts_iff {c : Cursor} {name : String} {parts : List String} :
    Parts c name parts ↔
      ((c.get? name).filter (· ≠ "")).elim [] (Text.splitOn ',') = parts := by
  unfold Parts
  cases (c.get? name).filter (· ≠ "") with
  | none => exact eq_comm
  | some text => exact Text.cut_iff

/-- The parts that are not blank. -/
def written (parts : List String) : List String := parts.filter fun part => !Text.isAllBlank part

/-- Work is refused by a definition error where something is wrong, and otherwise has a result that
is good. -/
inductive Settles {α : Type} (c : Cursor) (wrong : Prop) (good : α → Prop) (x : Except Fault α) :
    Prop
  | refused {d : Defect} (hwrong : wrong) (h : x = .error (.defect d c.element))
  | done {a : α} (hright : ¬wrong) (h : x = .ok a) (hgood : good a)

namespace Settles

variable {α β : Type} {c : Cursor} {wrong wrong' : Prop} {good : α → Prop} {x : Except Fault α}

theorem bind {g : α → Except Fault β} {good' : α → β → Prop} (hx : Settles c wrong good x)
    (hg : ∀ a, good a → Settles c wrong' (good' a) (g a)) :
    Settles c (wrong ∨ wrong') (fun b => ∃ a, good a ∧ good' a b) (x >>= g) := by
  cases hx with
  | refused hwrong h => exact .refused (.inl hwrong) (by rw [h]; rfl)
  | @done a hright h hgood =>
      have hbind : x >>= g = g a := by rw [h]; rfl
      cases hg a hgood with
      | refused hwrong' h' => exact .refused (.inr hwrong') (hbind.trans h')
      | done hright' h' hgood' =>
          exact .done (not_or.2 ⟨hright, hright'⟩) (hbind.trans h') ⟨a, hgood, hgood'⟩

theorem mono {good' : α → Prop} (hx : Settles c wrong good x) (h : ∀ a, good a → good' a) :
    Settles c wrong good' x := by
  cases hx with
  | refused hwrong h => exact .refused hwrong h
  | done hright hx hgood => exact .done hright hx (h _ hgood)

theorem pure_of {g : α → β} (hx : Settles c wrong good x) :
    Settles c wrong (fun b => ∃ a, good a ∧ b = g a) (do pure (g (← x))) := by
  cases hx with
  | refused hwrong h => exact .refused hwrong (by rw [h]; rfl)
  | @done a hright h hgood => exact .done hright (by rw [h]; rfl) ⟨a, hgood, rfl⟩

/-- Work on each of several things is refused if something is wrong with one of them. -/
theorem mapM {f : β → Except Fault α} {wrong : β → Prop} {good : β → α → Prop} {ys : List β}
    (h : ∀ y ∈ ys, Settles c (wrong y) (good y) (f y)) :
    Settles c (∃ y ∈ ys, wrong y) (List.Forall₂ good ys) (ys.mapM f) := by
  induction ys with
  | nil => exact .done (by simp) rfl .nil
  | cons y ys ih =>
      obtain ⟨hy, hys⟩ := List.forall_mem_cons.1 h
      cases hy with
      | refused hwrong h =>
          exact .refused ⟨y, List.mem_cons_self, hwrong⟩ (by rw [List.mapM_cons, h]; rfl)
      | done hright h hgood =>
          cases ih hys with
          | refused hwrong h' =>
              obtain ⟨z, hz, hwrong⟩ := hwrong
              exact .refused ⟨z, List.mem_cons_of_mem y hz, hwrong⟩
                (by rw [List.mapM_cons, h, h']; rfl)
          | done hright' h' hgood' =>
              refine .done ?_ (by rw [List.mapM_cons, h, h']; rfl) (.cons hgood hgood')
              rintro ⟨z, hz, hwrong⟩
              rcases List.mem_cons.1 hz with rfl | hz
              · exact hright hwrong
              · exact hright' ⟨z, hz, hwrong⟩

theorem refused_iff (h : Settles c wrong good x) :
    (∃ d, x = .error (.defect d c.element)) ↔ wrong := by
  cases h with
  | refused hwrong h => exact iff_of_true ⟨_, h⟩ hwrong
  | done hright h _ => exact iff_of_false (fun ⟨d, hd⟩ => by rw [h] at hd; cases hd) hright

theorem exists_of_not (h : Settles c wrong good x) (hright : ¬wrong) : ∃ a, good a ∧ x = .ok a := by
  cases h with
  | refused hwrong _ => exact absurd hwrong hright
  | done _ h hgood => exact ⟨_, hgood, h⟩

end Settles

variable {c : Cursor} {text span : String}

/-- Numbers are listed one by one, or a part is none. -/
theorem settles_listed (hlimit : ∀ single ∈ Text.splitOn ',' text, ∀ n digits,
      Numeral.IsInteger single n digits → digits.length ≤ Numeral.digitLimit) :
    Settles c (∃ single ∈ Text.splitOn ',' text, Misindexed single)
      (List.Forall₂ (fun single n => ∃ digits, Numeral.IsInteger single n digits)
        (written (Text.splitOn ',' text))) (listed c text) := by
  have hread (single : String) (n : Int) (h : Numeral.int? single = some n) :
      ∃ digits, Numeral.IsInteger single n digits := by
    obtain ⟨digits, hdigits, -⟩ := Numeral.int?_eq_some_iff.1 h
    exact ⟨digits, hdigits⟩
  unfold listed
  split
  · rename_i ns hns
    have hall := Attempt.mapM_eq_some_iff.1 hns
    refine .done ?_ rfl (hall.imp hread)
    rintro ⟨single, hmem, hblank, hnone⟩
    obtain ⟨n, -, hn⟩ := Attempt.exists_mem_of_forall₂_left hall
      (List.mem_filter.2 ⟨hmem, by simp [hblank]⟩)
    obtain ⟨digits, hdigits⟩ := hread single n hn
    exact hnone n digits hdigits
  · rename_i hnone
    refine .refused ?_ rfl
    by_contra hright
    have hall : ∀ single ∈ written (Text.splitOn ',' text), ∃ n, Numeral.int? single = some n := by
      intro single hmem
      obtain ⟨hmem, hblank⟩ := List.mem_filter.1 hmem
      by_contra hn
      refine hright ⟨single, hmem, by simpa using hblank, fun n digits hdigits => hn ⟨n, ?_⟩⟩
      exact Numeral.int?_eq_some_iff.2 ⟨digits, hdigits, hlimit single hmem n digits hdigits⟩
    obtain ⟨ns, hns⟩ := Attempt.exists_forall₂_of_forall hall
    rw [← written, Attempt.mapM_eq_some_iff.2 hns] at hnone
    cases hnone

/-- A part has the numbers of a range, or is no range. -/
theorem settles_spanned (hrun : ∀ s, IsSpan span.toList s → ∀ digits ∈ s.runs,
      digits.length ≤ Numeral.digitLimit) (hstride : ∀ s, IsSpan span.toList s → s.stride ≠ 0) :
    Settles c (Misspanned span) (Spans span.toList) (spanned c span) := by
  unfold spanned
  split
  · rename_i s hs
    have hspan := Span.ofChars?_eq_some_iff.1 hs
    have hvalue (ds : List Char) (hds : ds ∈ s.runs) : Span.value ds = .ok (Numeral.valueOf ds) :=
      Span.value_of_isRun (Span.isRun_of_isSpan hspan ds hds) (hrun s hspan ds hds)
    have hstep : (s.step.map Span.value).getD (.ok 1) = .ok (s.stride : Int) := by
      unfold Span.stride
      cases hs : s.step with
      | none => rfl
      | some step => exact hvalue step (by simp [Span.runs, hs])
    have hpos := Nat.pos_of_ne_zero (hstride s hspan)
    refine .done (fun hnone => hnone s hspan) (a := Span.count _ _ _) ?_
      ⟨s, hspan, Span.steps_count (Numeral.valueOf s.first) (Numeral.valueOf s.last)
        (Int.natCast_pos.2 hpos)⟩
    unfold Span.numbers
    rw [hvalue s.first (by simp [Span.runs]), hvalue s.last (by simp [Span.runs]), hstep]
    exact if_neg (by omega)
  · rename_i hnone
    refine .refused (fun s hs => ?_) rfl
    rw [Span.ofChars?_eq_some_iff.2 hs] at hnone
    cases hnone

/-- What a face element names: the numbers of `index`, then those of the ranges, or else quad 0. -/
def Names (singles spans : List String) (ns : List Int) : Prop :=
  ∃ (ones : List Int) (more : List (List Int)),
    List.Forall₂ (fun single n => ∃ digits, Numeral.IsInteger single n digits)
      (written singles) ones ∧
    List.Forall₂ (fun span ns => Spans span.toList ns) spans more ∧
    ns = if ones ++ more.flatten = [] then [0] else ones ++ more.flatten

theorem quads_eq (c : Cursor) : quads c = (do
    let ones ← ((c.get? "index").filter (· ≠ "")).elim (pure []) (listed c)
    let more ← ((c.get? "range").filter (· ≠ "")).elim (pure []) fun text => do
      pure (← (Text.splitOn ',' text).mapM (spanned c)).flatten
    pure (if ones ++ more = [] then [0] else ones ++ more)) := by
  unfold quads
  cases (c.get? "index").filter (· ≠ "") <;> cases (c.get? "range").filter (· ≠ "") <;>
    simp only [Option.elim, pure_bind, bind_assoc, List.isEmpty_iff]

theorem settles_quads {singles spans : List String} (hsingles : Parts c "index" singles)
    (hspans : Parts c "range" spans) (h : Moderate singles spans) :
    Settles c ((∃ single ∈ singles, Misindexed single) ∨ ∃ span ∈ spans, Misspanned span)
      (Names singles spans) (quads c) := by
  have hone : Settles c (∃ single ∈ singles, Misindexed single)
      (List.Forall₂ (fun single n => ∃ digits, Numeral.IsInteger single n digits) (written singles))
      (((c.get? "index").filter (· ≠ "")).elim (pure []) (listed c)) := by
    rw [← parts_iff.1 hsingles] at h ⊢
    cases hindex : (c.get? "index").filter (· ≠ "") with
    | none => exact .done (by simp) rfl .nil
    | some text =>
        rw [hindex] at h
        exact settles_listed h.single
  have hmore : Settles c (∃ span ∈ spans, Misspanned span)
      (fun ns => ∃ more, List.Forall₂ (fun span ns => Spans span.toList ns) spans more ∧
        ns = more.flatten)
      (((c.get? "range").filter (· ≠ "")).elim (pure []) fun text => do
        pure (← (Text.splitOn ',' text).mapM (spanned c)).flatten) := by
    rw [← parts_iff.1 hspans] at h ⊢
    cases hrange : (c.get? "range").filter (· ≠ "") with
    | none => exact .done (by simp) rfl ⟨[], .nil, rfl⟩
    | some text =>
        rw [hrange] at h
        exact (Settles.mapM fun span hmem =>
          settles_spanned (h.run span hmem) (h.stride span hmem)).pure_of
  rw [quads_eq]
  refine (hone.bind fun ones _ => hmore.pure_of).mono ?_
  rintro ns ⟨ones, hones, -, ⟨more, hspans, rfl⟩, rfl⟩
  exact ⟨ones, more, hones, hspans, rfl⟩

/-! ### Integers joined by commas -/

theorem isDigit_of_mem_toString {n : Int} {c : Char} (h : c ∈ (toString n).toList) :
    c = '-' ∨ c.isDigit = true := by
  rw [Numeral.toList_toString] at h
  rcases List.mem_append.1 h with h | h
  · split at h
    · exact .inl (List.mem_singleton.1 h)
    · cases h
  · exact .inr (Nat.isDigit_of_mem_toDigits (by omega) (by omega) h)

theorem not_allBlank_toString (n : Int) : Text.isAllBlank (toString n) = false := by
  obtain ⟨d, hd⟩ := List.exists_mem_of_ne_nil _ (Nat.toDigits_ne_nil (b := 10) (n := n.natAbs))
  have hdecimal : Text.isDecimal d = true :=
    Numeral.isDecimal_of_isDigit (Nat.isDigit_of_mem_toDigits (by omega) (by omega) hd)
  rw [Text.isAllBlank, List.all_eq_false]
  refine ⟨d, ?_, fun hblank => ?_⟩
  · rw [Numeral.toList_toString]
    exact List.mem_append_right _ hd
  · rw [Text.isDecimal_of_isBlank hblank] at hdecimal
    cases hdecimal

theorem cut_intercalate {ns : List Int} (hne : ns ≠ []) :
    Text.Cut ',' (String.intercalate "," (ns.map toString)) (ns.map toString) := by
  refine ⟨by simpa using hne, fun part hpart => ?_, ?_⟩
  · obtain ⟨n, -, rfl⟩ := List.mem_map.1 hpart
    intro hcomma
    rcases isDigit_of_mem_toString hcomma with h | h
    · exact absurd h (by decide)
    · exact absurd h (by decide)
  · rw [Text.toList_intercalate]
    rfl

/-- What is read from integers joined by commas are the integers. -/
theorem listed_intercalate {ns : List Int} (hne : ns ≠ [])
    (hlimit : ∀ n ∈ ns, (Nat.toDigits 10 n.natAbs).length ≤ Numeral.digitLimit) :
    listed c (String.intercalate "," (ns.map toString)) = .ok ns := by
  have hread : (ns.map toString).mapM Numeral.int? = some ns := by
    rw [Attempt.mapM_eq_some_iff, List.forall₂_map_left_iff, List.forall₂_same]
    intro n hn
    exact Numeral.int?_eq_some_iff.2 ⟨_, Numeral.isInteger_toString n, hlimit n hn⟩
  have hwritten :
      (ns.map toString).filter (fun part => !Text.isAllBlank part) = ns.map toString := by
    rw [List.filter_eq_self]
    intro part hpart
    obtain ⟨n, -, rfl⟩ := List.mem_map.1 hpart
    rw [not_allBlank_toString]
    rfl
  rw [listed, Text.cut_iff.1 (cut_intercalate hne), hwritten, hread]

example : quads ⟨⟨"face", [("range", "2-3, 0 - 5 / 2")], 1, []⟩, [], [], none⟩ =
    .ok [2, 3, 0, 2, 4] := rfl

end FaceBinding

end Stagecraft
