import Mathlib.Data.List.TakeWhile
import Stagecraft.Text.Blank

/-!
# Pieces of texts

A text is cut at its separators, and blanks around a piece do not count. Here the two are described
by their results: pieces are those of a text if there is no separator in them and they make up the
text again with separators in between (`cut_iff`), and a text is what is left of another if there
are only blanks around it and none at its own ends (`trimmed_iff`).
-/

namespace Stagecraft

namespace Text

/-- Pieces that make up a text with separators in between, and hold none themselves. -/
structure Cut (sep : Char) (s : String) (pieces : List String) : Prop where
  ne_nil : pieces ≠ []
  free : ∀ piece ∈ pieces, sep ∉ piece.toList
  join : [sep].intercalate (pieces.map String.toList) = s.toList

theorem splitChars_eq_splitOn (sep : Char) (cs : List Char) :
    splitChars sep cs = cs.splitOn sep := by
  induction cs with
  | nil => rfl
  | cons c cs ih =>
      have hne := splitChars_ne_nil sep cs
      unfold splitChars
      rw [List.splitOn_cons_eq_if_modifyHead, ← ih]
      by_cases h : c = sep
      · simp [h]
      · cases hpieces : splitChars sep cs with
        | nil => exact absurd hpieces hne
        | cons piece pieces => simp [h]

theorem not_mem_of_mem_splitChars {sep : Char} {cs piece : List Char}
    (h : piece ∈ splitChars sep cs) : sep ∉ piece := by
  induction cs generalizing piece with
  | nil =>
      rw [List.mem_singleton.1 h]
      exact List.not_mem_nil
  | cons c cs ih =>
      unfold splitChars at h
      split at h
      · rcases List.mem_cons.1 h with rfl | h
        · exact List.not_mem_nil
        · exact ih h
      · rename_i hc
        split at h
        · rename_i first pieces hpieces
          rw [hpieces] at ih
          rcases List.mem_cons.1 h with rfl | h
          · rw [List.mem_cons, not_or]
            exact ⟨Ne.symm hc, ih List.mem_cons_self⟩
          · exact ih (List.mem_cons_of_mem first h)
        · rename_i hpieces
          exact absurd hpieces (splitChars_ne_nil sep cs)

theorem map_toList_ofList (ls : List (List Char)) :
    (ls.map String.ofList).map String.toList = ls := by
  rw [List.map_map]
  exact List.map_id'' (fun _ => String.toList_ofList) ls

theorem map_ofList_toList (ts : List String) : (ts.map String.toList).map String.ofList = ts := by
  rw [List.map_map]
  exact List.map_id'' (fun _ => String.ofList_toList) ts

theorem toList_intercalate (sep : String) (ts : List String) :
    (String.intercalate sep ts).toList = sep.toList.intercalate (ts.map String.toList) := by
  cases ts with
  | nil => rfl
  | cons t rest =>
      induction rest generalizing t with
      | nil =>
          have hone : String.intercalate sep [t] = t := rfl
          rw [hone, List.map_singleton, List.intercalate_singleton]
      | cons u rest ih =>
          have hjoin : String.intercalate sep (t :: u :: rest) =
              String.intercalate sep ((t ++ sep ++ u) :: rest) := rfl
          rw [hjoin, ih, List.map_cons, List.map_cons, List.map_cons, List.intercalate_cons_cons,
            String.toList_append, String.toList_append]
          cases rest with
          | nil => rw [List.map_nil, List.intercalate_singleton, List.intercalate_singleton]
          | cons v rest =>
              rw [List.map_cons, List.intercalate_cons_cons, List.intercalate_cons_cons]
              simp only [List.append_assoc]

/-- There is one way to cut a text. -/
theorem cut_iff {sep : Char} {s : String} {pieces : List String} :
    Cut sep s pieces ↔ splitOn sep s = pieces := by
  unfold splitOn
  constructor
  · rintro ⟨hne, hfree, hjoin⟩
    rw [splitChars_eq_splitOn, ← hjoin, List.splitOn_intercalate sep, map_ofList_toList]
    · simpa using hfree
    · simpa using hne
  · rintro rfl
    refine ⟨?_, fun piece hpiece => ?_, ?_⟩
    · rw [Ne, List.map_eq_nil_iff]
      exact splitChars_ne_nil sep _
    · obtain ⟨cs, hcs, rfl⟩ := List.mem_map.1 hpiece
      rw [String.toList_ofList]
      exact not_mem_of_mem_splitChars hcs
    · rw [map_toList_ofList, splitChars_eq_splitOn, List.intercalate_splitOn]

/-- What is left without some characters at both ends. -/
structure TrimmedOf (drops : Char → Bool) (cs body : List Char) : Prop where
  around : ∃ lead tail, cs = lead ++ (body ++ tail) ∧ ∀ c ∈ lead ++ tail, drops c = true
  head : ∀ c ∈ body.head?, drops c = false
  last : ∀ c ∈ body.getLast?, drops c = false

/-- Characters are dropped up to one that is not. -/
theorem dropWhile_append_of_head {p : Char → Bool} {lead rest : List Char}
    (hlead : ∀ c ∈ lead, p c = true) (hrest : ∀ c ∈ rest.head?, p c = false) :
    (lead ++ rest).dropWhile p = rest := by
  rw [List.dropWhile_append_of_pos hlead]
  cases rest with
  | nil => rfl
  | cons c rest => exact List.dropWhile_cons_of_neg (by simp [hrest c rfl])

theorem takeWhile_append_of_head {p : Char → Bool} {lead rest : List Char}
    (hlead : ∀ c ∈ lead, p c = true) (hrest : ∀ c ∈ rest.head?, p c = false) :
    (lead ++ rest).takeWhile p = lead := by
  rw [List.takeWhile_append_of_pos hlead]
  cases rest with
  | nil => exact List.append_nil lead
  | cons c rest =>
      rw [List.takeWhile_cons_of_neg (by simp [hrest c rfl]), List.append_nil]

theorem head?_dropWhile (p : Char → Bool) (cs : List Char) :
    ∀ c ∈ (cs.dropWhile p).head?, p c = false := by
  intro c hc
  have hnot := List.head?_dropWhile_not p cs
  rwa [hc] at hnot

/-- There is one way to drop characters at both ends. -/
theorem trimmedOf_iff {drops : Char → Bool} {cs body : List Char} :
    TrimmedOf drops cs body ↔
      ((cs.dropWhile drops).reverse.dropWhile drops).reverse = body := by
  constructor
  · rintro ⟨⟨lead, tail, rfl, haround⟩, hhead, hlast⟩
    obtain ⟨hlead, htail⟩ := List.forall_mem_append.1 haround
    rw [List.dropWhile_append_of_pos hlead]
    by_cases hne : body = []
    · rw [hne, List.nil_append, List.dropWhile_eq_nil_iff.2 htail]
      rfl
    · have hfront : (body ++ tail).dropWhile drops = body ++ tail := by
        cases body with
        | nil => exact absurd rfl hne
        | cons c body => exact List.dropWhile_cons_of_neg (by simp [hhead c rfl])
      have hback : ∀ c ∈ body.reverse.head?, drops c = false := by rwa [List.head?_reverse]
      rw [hfront, List.reverse_append,
        dropWhile_append_of_head (fun c hc => htail c (List.mem_reverse.1 hc)) hback,
        List.reverse_reverse]
  · rintro rfl
    have hfront := List.takeWhile_append_dropWhile (p := drops) (l := cs)
    have hback := List.takeWhile_append_dropWhile (p := drops) (l := (cs.dropWhile drops).reverse)
    have hmiddle : ((cs.dropWhile drops).reverse.dropWhile drops).reverse ++
        ((cs.dropWhile drops).reverse.takeWhile drops).reverse = cs.dropWhile drops := by
      rw [← List.reverse_append, hback, List.reverse_reverse]
    refine ⟨⟨cs.takeWhile drops, ((cs.dropWhile drops).reverse.takeWhile drops).reverse, ?_, ?_⟩,
      fun c hc => ?_, fun c hc => ?_⟩
    · rw [hmiddle, hfront]
    · refine List.forall_mem_append.2 ⟨fun c hc => List.mem_takeWhile_imp hc, fun c hc => ?_⟩
      exact List.mem_takeWhile_imp (List.mem_reverse.1 hc)
    · refine head?_dropWhile drops cs c ?_
      rw [← hmiddle, List.head?_append, Option.mem_def.1 hc]
      rfl
    · rw [List.getLast?_reverse] at hc
      exact head?_dropWhile drops _ c hc

theorem trimmed_iff {s t : String} : TrimmedOf isBlank s.toList t.toList ↔ strip s = t := by
  rw [trimmedOf_iff]
  unfold strip stripChars
  constructor
  · intro h
    rw [h, String.ofList_toList]
  · rintro rfl
    rw [String.toList_ofList]

end Text

end Stagecraft
