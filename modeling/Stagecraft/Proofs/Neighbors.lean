import Stagecraft.Loading.Loader
import Stagecraft.Proofs.Segments
import Stagecraft.Proofs.Places
import Stagecraft.Proofs.Waiting

/-!
# Neighbors of documents

A document that was loaded from a path refers to its neighbors: to files beside it or below its
directory. The references are resolved as addresses, and so is the path of the document. A name with
a question mark or a number sign ends the path there, and the neighbors are looked for somewhere
else (`Loader.resolve_eq_iff`), although the document itself has been found under that name.
-/

namespace Stagecraft

open Markup

namespace FilePath

/-- The segments of a directory. -/
def segments (p : FilePath) : List (List Char) :=
  (if p.root = "" then [] else [[]]) ++ p.names.map String.toList

variable {p : FilePath}

theorem segments_eq_nil_iff : p.segments = [] ↔ p.root = "" ∧ p.names = [] := by
  unfold segments
  split <;> simp [*]

theorem lead_segments (h : p.root = "" ∨ p.root = "/") :
    Url.lead p.segments = p.root.toList ++ Url.lead (p.names.map String.toList) := by
  unfold segments
  rcases h with h | h <;> rw [h] <;> rfl

/-- A path below a directory. -/
theorem text_append (h : p.root = "" ∨ p.root = "/") {names : List String} (hne : names ≠ [])
    (hnames : ∀ n ∈ names, Url.IsStep n.toList) :
    ({ p with names := p.names ++ names } : FilePath).text =
      .ofList (Url.lead p.segments ++ ['/'].intercalate (names.map String.toList)) := by
  have hmap : names.map String.toList ≠ [] := fun h => hne (List.map_eq_nil_iff.1 h)
  have hsteps : ∀ s ∈ names.map String.toList, Url.IsStep s := by simpa using hnames
  have hjoined : (p.root ++ String.intercalate "/" (p.names ++ names)).toList =
      Url.lead p.segments ++ ['/'].intercalate (names.map String.toList) := by
    have hslash : "/".toList = ['/'] := rfl
    rw [String.toList_append, Text.toList_intercalate, hslash, List.map_append, lead_segments h,
      List.append_assoc, Url.lead_append_intercalate _ hmap]
  have hfilled : (p.root ++ String.intercalate "/" (p.names ++ names)).isEmpty = false := by
    rw [← Bool.not_eq_true, String.isEmpty_iff, ← String.toList_eq_nil_iff, hjoined]
    exact fun h => Url.intercalate_ne_nil hmap hsteps (List.append_eq_nil_iff.1 h).2
  unfold text
  dsimp only
  rw [hfilled, ← hjoined, String.ofList_toList]
  rfl

end FilePath

/-- A file in a directory that is given from the root or from where one stands. -/
structure LocalFile where
  dir : FilePath
  name : String
  root : dir.root = "" ∨ dir.root = "/"
  step : ∀ n ∈ dir.names ++ [name], Url.IsStep n.toList

/-- A reference that leads on to a file. -/
structure Reference where
  steps : List String
  ne_nil : steps ≠ []
  step : ∀ s ∈ steps, Url.IsStep s.toList
  plain : ∀ s ∈ steps, ∀ c ∈ s.toList, c ∉ [':', '?', '#', ';']

namespace Reference

def text (r : Reference) : String := String.intercalate "/" r.steps

theorem text_eq (r : Reference) :
    r.text = .ofList (['/'].intercalate (r.steps.map String.toList)) := by
  have htoList : r.text.toList = ['/'].intercalate (r.steps.map String.toList) :=
    Text.toList_intercalate "/" r.steps
  rw [← htoList, String.ofList_toList]

theorem text_ne (r : Reference) : r.text ≠ "" := by
  intro h
  have hnil := congrArg String.toList (r.text_eq.symm.trans h)
  rw [String.toList_ofList] at hnil
  exact Url.intercalate_ne_nil (fun hnil => r.ne_nil (List.map_eq_nil_iff.1 hnil))
    (by simpa using r.step) hnil

theorem hasScheme_text (r : Reference) : Url.hasScheme r.text.toList = false := by
  have hcolon : ':' ∉ r.text.toList := by
    rw [r.text_eq, String.toList_ofList]
    intro h
    rcases Url.mem_intercalate h with hslash | ⟨s, hs, hc⟩
    · cases hslash
    · obtain ⟨n, hn, rfl⟩ := List.mem_map.1 hs
      exact r.plain n hn ':' hc (by simp)
  unfold Url.hasScheme Url.scheme?
  rw [Url.cut_of_not_mem hcolon]
  rfl

end Reference

namespace LocalFile

def url (f : LocalFile) : String := (f.dir.below f.name).text

/-- The path of the file that a reference means. -/
def neighbor (f : LocalFile) (r : Reference) : String :=
  ({ f.dir with names := f.dir.names ++ r.steps } : FilePath).text

/-- Nothing of the directory and of the reference is dropped from an address, and the path begins
with no scheme. -/
structure Intact (f : LocalFile) (r : Reference) : Prop where
  kept : ∀ n ∈ f.dir.names ++ r.steps, ∀ c ∈ n.toList, Url.isKept c = true
  start : f.dir.root = "" → ∀ n ∈ (f.dir.names ++ [f.name]).head?, Url.IsStart n.toList
  visible : ∀ s ∈ r.steps.head?, ∀ c ∈ s.toList.head?, 32 < c.toNat

/-- No directory is cut off where an address would have a query or a fragment, and if there is none
then the path does not begin with either or with parameters. -/
structure Undelimited (f : LocalFile) : Prop where
  names : ∀ n ∈ f.dir.names, '?' ∉ n.toList ∧ '#' ∉ n.toList
  start : f.dir.root = "" → f.dir.names = [] → ∀ c ∈ f.name.toList.head?, c ∉ ['?', '#', ';']

variable {f : LocalFile} {r : Reference}

theorem url_eq (f : LocalFile) :
    f.url = .ofList (Url.lead f.dir.segments ++ f.name.toList) := by
  have htext := FilePath.text_append f.root (List.cons_ne_nil f.name []) fun n hn =>
    f.step n (List.mem_append_right _ hn)
  rwa [List.map_singleton, List.intercalate_singleton] at htext

theorem url_ne (f : LocalFile) : f.url ≠ "" := by
  intro h
  have hnil := congrArg String.toList (f.url_eq.symm.trans h)
  rw [String.toList_ofList] at hnil
  exact (f.step f.name (List.mem_append_right _ List.mem_cons_self)).ne_nil
    (List.append_eq_nil_iff.1 hnil).2

theorem neighbor_eq (f : LocalFile) (r : Reference) : f.neighbor r =
    .ofList (Url.lead f.dir.segments ++ ['/'].intercalate (r.steps.map String.toList)) :=
  FilePath.text_append f.root r.ne_nil r.step

theorem isDirectory (f : LocalFile) : Url.IsDirectory f.dir.segments := by
  have hnames : ∀ s ∈ f.dir.names.map String.toList, Url.IsStep s := by
    simpa using fun n hn => f.step n (List.mem_append_left _ hn)
  unfold FilePath.segments
  split
  · exact ⟨fun d hd => .inr (hnames d (List.mem_of_mem_head? hd)),
      fun d hd => hnames d (List.mem_of_mem_tail hd)⟩
  · exact ⟨fun d hd => .inl (Option.some.inj hd).symm, hnames⟩

theorem Intact.isReference (h : f.Intact r) : Url.IsReference (r.steps.map String.toList) where
  ne_nil := fun hnil => r.ne_nil (List.map_eq_nil_iff.1 hnil)
  step := by simpa using r.step
  kept := by simpa using fun s hs => h.kept s (List.mem_append_right _ hs)
  plain := by simpa using r.plain
  visible := by simpa using h.visible

theorem mem_segments {f : LocalFile} {d : List Char} (h : d ∈ f.dir.segments) :
    d = [] ∨ ∃ n ∈ f.dir.names, n.toList = d := by
  unfold FilePath.segments at h
  rcases List.mem_append.1 h with h | h
  · split at h
    · cases h
    · exact .inl (List.mem_singleton.1 h)
  · exact .inr (List.mem_map.1 h)

theorem Intact.keeps (h : f.Intact r) : ∀ d ∈ f.dir.segments, ∀ c ∈ d, Url.isKept c = true := by
  intro d hd
  rcases mem_segments hd with rfl | ⟨n, hn, rfl⟩
  · exact nofun
  · exact h.kept n (List.mem_append_left _ hn)

theorem Intact.starts (h : f.Intact r) :
    ∀ s ∈ (f.dir.segments ++ [f.name.toList]).head?, s = [] ∨ Url.IsStart s := by
  intro s hs
  unfold FilePath.segments at hs
  split at hs
  · rename_i hroot
    have hnames : [] ++ f.dir.names.map String.toList ++ [f.name.toList] =
        (f.dir.names ++ [f.name]).map String.toList := by simp
    rw [hnames, List.head?_map] at hs
    obtain ⟨n, hn, rfl⟩ := Option.map_eq_some_iff.1 hs
    exact .inr (h.start hroot n hn)
  · exact .inl (Option.some.inj hs).symm

/-- A neighbor is found from the path of a document just if the path is not delimited. -/
theorem join_eq_iff (h : f.Intact r) :
    Url.join f.url r.text = .ok (f.neighbor r) ↔ f.Undelimited := by
  have hstep := f.step f.name (List.mem_append_right _ List.mem_cons_self)
  rw [url_eq, r.text_eq, neighbor_eq, Url.join_eq_iff f.isDirectory hstep.no_slash hstep.ne_nil
    h.keeps h.starts h.isReference]
  constructor
  · rintro ⟨hplain, hmark⟩
    refine ⟨fun n hn => ?_, fun hroot hnames c hc hmem => ?_⟩
    · have hn : n.toList ∈ f.dir.segments := List.mem_append_right _ (List.mem_map_of_mem hn)
      exact ⟨fun hc => absurd (hplain _ hn _ hc) (by decide),
        fun hc => absurd (hplain _ hn _ hc) (by decide)⟩
    · exact hmark (FilePath.segments_eq_nil_iff.2 ⟨hroot, hnames⟩) ⟨c, hc, by simpa using hmem⟩
  · rintro ⟨hnames, hstart⟩
    refine ⟨fun d hd c hc => ?_, fun hnil => ?_⟩
    · rcases mem_segments hd with rfl | ⟨n, hn, rfl⟩
      · cases hc
      · obtain ⟨hquery, hfragment⟩ := hnames n hn
        have hne : c ≠ '?' ∧ c ≠ '#' := ⟨fun h => hquery (h ▸ hc), fun h => hfragment (h ▸ hc)⟩
        simpa [Url.isPlain] using hne
    · rintro ⟨c, hc, hmark⟩
      obtain ⟨hroot, hnone⟩ := FilePath.segments_eq_nil_iff.1 hnil
      exact hstart hroot hnone c hc (by simpa using hmark)

end LocalFile

namespace Markup.Cursor

theorem url_of_follow? {c x : Cursor} {steps : List Nat} (h : c.follow? steps = some x) :
    x.url = c.url := by
  induction steps generalizing c with
  | nil =>
      cases h
      rfl
  | cons i steps ih =>
      obtain ⟨d, hd, h⟩ := Option.bind_eq_some_iff.1 h
      obtain ⟨e, -, rfl⟩ := child?_eq_some_iff.1 hd
      have hurl := ih h
      exact hurl

end Markup.Cursor

namespace Loader

variable {l : Loader} {f : LocalFile} {r : Reference} {root c : Cursor} {name : String}

/-- A document that is read knows the address it was asked for by. Readers may escape some
characters of an address. -/
def KeepsAddress (l : Loader) (url : String) : Prop :=
  ∀ content d, l.read url content = .ok d → d.url = some url

/-- Nothing is escaped where nobody else reads. -/
theorem url_of_asDocument {url : String} {content : Content} {d : Document}
    (h : content.asDocument url = .ok d) : d.url = some url := by
  unfold Content.asDocument at h
  split at h
  · cases h
    rfl
  · cases h

theorem url_of_loadDocument {url : String} (hl : l.KeepsAddress url)
    (h : (l.loadDocument url).run.1 = .ok root) : root.url = some url := by
  obtain ⟨content, -, h⟩ := Timed.bind_eq_ok_iff.1 h
  obtain ⟨d, hd, h⟩ := Timed.bind_eq_ok_iff.1 h
  cases h
  have hd : l.documentOf url content = .ok d := hd
  unfold documentOf at hd
  cases hread : l.read url content with
  | error refusal =>
      rw [hread] at hd
      cases hd
  | ok d' =>
      rw [hread] at hd
      cases hd
      exact hl content d hread

/-- A reference of a document that was loaded from a path leads to the neighbor it means just if no
directory is cut off where an address has a query or a fragment. -/
theorem resolve_eq_iff (hl : l.KeepsAddress f.url)
    (hload : (l.loadDocument f.url).run.1 = .ok root) {steps : List Nat}
    (hc : root.follow? steps = some c) (hget : c.get? name = some r.text) (h : f.Intact r) :
    l.resolve c name = .ok (some (f.neighbor r)) ↔ f.Undelimited := by
  have hurl : c.url = some f.url :=
    (Cursor.url_of_follow? hc).trans (url_of_loadDocument hl hload)
  have hkept {s : String} (hs : s ≠ "") : (some s).filter (· ≠ "") = some s := by simp [hs]
  unfold resolve
  rw [hget, hkept r.text_ne, hurl, hkept f.url_ne, Option.some_or]
  dsimp only
  rw [r.hasScheme_text, if_neg Bool.false_ne_true, Attempt.map_eq_ok_iff,
    ← LocalFile.join_eq_iff h]
  constructor
  · rintro ⟨s, hs, hsame⟩
    rw [hs, Option.some.inj hsame]
  · exact fun h => ⟨_, h, rfl⟩

/-- A loader with a document in one place, which refers to a picture. -/
def holding (f : LocalFile) : Loader :=
  { storage := { files := [(f.dir.names ++ [f.name], .text "<t url='tex/a.png'/>")] } }

def picture : Reference := ⟨["tex", "a.png"], by decide, by decide +kernel, by simp⟩

def level : LocalFile := ⟨⟨"", ["levels", "one"]⟩, "level.xml", .inl rfl, by decide +kernel⟩

def numbered : LocalFile := ⟨⟨"", ["level#1"]⟩, "level.xml", .inl rfl, by decide +kernel⟩

theorem exists_loaded {url text : String}
    (h : ((l.loadDocument url).run.1.toOption.bind fun c => c.get? name) = some text) :
    ∃ c, (l.loadDocument url).run.1 = .ok c ∧ c.get? name = some text := by
  obtain ⟨c, hc, hget⟩ := Option.bind_eq_some_iff.1 h
  cases hload : (l.loadDocument url).run.1 with
  | error f =>
      rw [hload] at hc
      cases hc
  | ok d =>
      rw [hload] at hc
      cases hc
      exact ⟨c, rfl, hget⟩

theorem resolve_eq_iff_level :
    (∃ c, ((holding level).loadDocument "levels/one/level.xml").run.1 = .ok c ∧
      (holding level).resolve c "url" = .ok (some "levels/one/tex/a.png")) ∧
    ∃ c, ((holding numbered).loadDocument "level#1/level.xml").run.1 = .ok c ∧
      (holding numbered).resolve c "url" ≠ .ok (some "level#1/tex/a.png") := by
  obtain ⟨c, hload, hget⟩ : ∃ c, ((holding level).loadDocument level.url).run.1 = .ok c ∧
      c.get? "url" = some picture.text := exists_loaded (by decide +kernel)
  obtain ⟨d, hload', hget'⟩ : ∃ d, ((holding numbered).loadDocument numbered.url).run.1 = .ok d ∧
      d.get? "url" = some picture.text := exists_loaded (by decide +kernel)
  have hintact : level.Intact picture :=
    ⟨by simp [level, picture, Url.isKept], by decide +kernel, by simp [picture]⟩
  have hintact' : numbered.Intact picture :=
    ⟨by simp [numbered, picture, Url.isKept], by decide +kernel, by simp [picture]⟩
  have hplain : level.Undelimited := ⟨by decide +kernel, fun _ => nofun⟩
  have hcut : ¬numbered.Undelimited := fun h =>
    (h.names "level#1" List.mem_cons_self).2 (by decide +kernel)
  have hself {x : Cursor} : x.follow? [] = some x := rfl
  have hkeeps : (holding level).KeepsAddress level.url := fun _ _ => url_of_asDocument
  have hkeeps' : (holding numbered).KeepsAddress numbered.url := fun _ _ => url_of_asDocument
  exact ⟨⟨c, hload, (resolve_eq_iff hkeeps hload hself hget hintact).2 hplain⟩, d, hload',
    fun h => hcut ((resolve_eq_iff hkeeps' hload' hself hget' hintact').1 h)⟩

/-- A document below a directory with a number sign is found, and its neighbors are not. -/
theorem not_resolve_neighbor :
    ¬∀ (l : Loader) (f : LocalFile) (r : Reference) (root c : Cursor) (steps : List Nat)
      (name : String), (l.loadDocument f.url).run.1 = .ok root → root.follow? steps = some c →
        c.get? name = some r.text → l.resolve c name = .ok (some (f.neighbor r)) := by
  intro h
  obtain ⟨c, hload, hget⟩ : ∃ c, ((holding numbered).loadDocument numbered.url).run.1 = .ok c ∧
      c.get? "url" = some picture.text := exists_loaded (by decide +kernel)
  have hfound := h (holding numbered) numbered picture c c [] "url" hload rfl hget
  have hseen : ((holding numbered).loadDocument numbered.url).run.1.toOption.bind
      (fun c => ((holding numbered).resolve c "url").toOption) = some (some "tex/a.png") := by
    decide +kernel
  have hmeant : numbered.neighbor picture = "level#1/tex/a.png" := by decide +kernel
  rw [hload] at hseen
  change ((holding numbered).resolve c "url").toOption = _ at hseen
  rw [hfound, hmeant] at hseen
  exact absurd hseen (by decide)

end Loader

end Stagecraft
