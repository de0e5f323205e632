import Mathlib
import Stagecraft.Animation.Definition
import Stagecraft.Proofs.Declarations
import Stagecraft.Proofs.Places

/-!
# Repeats

The frames of an animation are read in one go, with a run that is collected on the way and repeated
when its loop closes. What comes of it is said run by run: a run is as long as it can be with one
element around all of its frames, and it is shown as often as that element says. The proof takes the
reading along a whole run at a time (`framesOf_of_run`); between two runs nothing is collected.
-/

namespace Stagecraft

open Markup

namespace Markup.Cursor

theorem tag_of_mem_tagged {c d : Cursor} {tag : String} (h : d ∈ c.tagged tag) : d.tag = tag := by
  simpa using (List.mem_filter.1 h).2

/-- Elements with a tag can be counted at their parents. -/
theorem sum_tagged (c : Cursor) (tag : String) (weight : Cursor → Nat) :
    ((c.tagged tag).map fun d => d.parent?.elim 0 weight).sum =
      ((c :: c.descendants).map fun p => (p.childrenTagged tag).length * weight p).sum := by
  have hchildren (p : Cursor) : ((p.childrenTagged tag).map fun d => d.parent?.elim 0 weight).sum =
      (p.childrenTagged tag).length * weight p := by
    have hparent : (p.childrenTagged tag).map (fun d => d.parent?.elim 0 weight) =
        (p.childrenTagged tag).map fun _ => weight p := by
      refine List.map_congr_left fun d hd => ?_
      rw [parent?_of_mem_children (List.mem_filter.1 hd).1]
      rfl
    rw [hparent, List.map_const', List.sum_replicate, smul_eq_mul]
  have hbelow (ps : List Cursor) :
      (((ps.flatMap children).filter (·.tag = tag)).map fun d => d.parent?.elim 0 weight).sum =
        (ps.map fun p => (p.childrenTagged tag).length * weight p).sum := by
    induction ps with
    | nil => rfl
    | cons p ps ih =>
        rw [List.flatMap_cons, List.filter_append, List.map_append, List.sum_append, ih,
          List.map_cons, List.sum_cons, ← hchildren]
        rfl
  have hperm := ((descendants_perm c).filter (·.tag = tag)).map fun d => d.parent?.elim 0 weight
  unfold tagged
  rw [hperm.sum_eq, List.filter_append, List.map_append, List.sum_append, hbelow, List.map_cons,
    List.sum_cons, ← hchildren]
  rfl

end Markup.Cursor

namespace Animation

/-- Frame elements are cut into runs, which are as long as they can be with one element around all
frames of a run. -/
structure Runs (frames : List Cursor) (runs : List (List Cursor)) : Prop where
  flatten : runs.flatten = frames
  ne_nil : [] ∉ runs
  together : ∀ run ∈ runs, run.IsChain fun a b => a.parent? = b.parent?
  apart : runs.IsChain fun r s => ∀ a ∈ r.getLast?, ∀ b ∈ s.head?, a.parent? ≠ b.parent?

/-- The frames of a run are shown one after the other: if the element around them is a loop, as
often as it says, but once at least, and otherwise once. -/
def Repeated (id : Option String) (sheet : Vec2) (run : List Cursor) (shown : List Frame) : Prop :=
  ∃ parent frames, (∀ f ∈ run, f.parent? = some parent) ∧ run.mapM (frame id sheet) = .ok frames ∧
    if parent.tag = "loop" then
      ∃ count, loopCount parent.element = .ok count ∧
        shown = (List.replicate (max 1 count).toNat frames).flatten
    else shown = frames

variable {id : Option String} {sheet : Vec2} {c p : Cursor}

theorem sameParent_iff {a b : Cursor} (ha : a ∈ c.descendants) (hb : b ∈ c.descendants) :
    sameParent a b = true ↔ a.parent? = b.parent? := by
  rw [Cursor.parent?_eq_iff ha hb]
  exact beq_iff_eq

/-- There is one way to cut the frame elements of a document into runs. -/
theorem runs_iff {frames : List Cursor} (hframes : ∀ f ∈ frames, f ∈ c.descendants)
    {runs : List (List Cursor)} : Runs frames runs ↔ runs = frames.splitBy sameParent := by
  rw [eq_comm, List.splitBy_eq_iff]
  have hmem {run : List Cursor} (hflat : runs.flatten = frames) (hrun : run ∈ runs) {f : Cursor}
      (hf : f ∈ run) : f ∈ c.descendants :=
    hframes f (hflat ▸ List.mem_flatten.2 ⟨run, hrun, hf⟩)
  have hchain {run : List Cursor} (hflat : runs.flatten = frames) (hrun : run ∈ runs) :
      (run.IsChain fun a b => a.parent? = b.parent?) ↔ run.IsChain fun a b => sameParent a b := by
    constructor
    · exact fun h => h.imp_of_mem_imp fun a b ha hb hab =>
        (sameParent_iff (hmem hflat hrun ha) (hmem hflat hrun hb)).2 hab
    · exact fun h => h.imp_of_mem_imp fun a b ha hb hab =>
        (sameParent_iff (hmem hflat hrun ha) (hmem hflat hrun hb)).1 hab
  have hne {run : List Cursor} (hnil : [] ∉ runs) (hrun : run ∈ runs) : run ≠ [] :=
    fun h => hnil (h ▸ hrun)
  constructor
  · rintro ⟨hflat, hnil, htogether, hapart⟩
    refine ⟨hflat.symm, hnil, fun run hrun => (hchain hflat hrun).1 (htogether run hrun), ?_⟩
    refine hapart.imp_of_mem_imp fun r s hr hs hrs => ⟨hne hnil hr, hne hnil hs, ?_⟩
    have hlast := List.getLast_mem (hne hnil hr)
    have hhead := List.head_mem (hne hnil hs)
    rw [Bool.eq_false_iff, Ne, sameParent_iff (hmem hflat hr hlast) (hmem hflat hs hhead)]
    exact hrs _ (List.getLast?_eq_some_getLast _) _ (List.head?_eq_some_head _)
  · rintro ⟨hflat, hnil, htogether, hapart⟩
    refine ⟨hflat.symm, hnil, fun run hrun => (hchain hflat.symm hrun).2 (htogether run hrun), ?_⟩
    refine hapart.imp_of_mem_imp fun r s hr hs hrs a ha b hb => ?_
    obtain ⟨hrne, hsne, hrs⟩ := hrs
    rw [List.getLast?_eq_some_getLast hrne] at ha
    rw [List.head?_eq_some_head hsne] at hb
    cases ha
    cases hb
    rw [Bool.eq_false_iff, Ne, sameParent_iff (hmem hflat.symm hr (List.getLast_mem hrne))
      (hmem hflat.symm hs (List.head_mem hsne))] at hrs
    exact hrs

theorem loop?_of_parent {f : Cursor} (h : f.parent? = some p) :
    loop? f = if p.tag = "loop" then some p else none := by
  simp [loop?, h, Option.filter]

theorem sameParent_of_parent {a b : Cursor} (ha : a.parent? = some p) (hb : b.parent? = some p) :
    sameParent a b = true := by
  have haddress {f : Cursor} (h : f.parent? = some p) : f.address.dropLast = p.address := by
    unfold Cursor.parent? at h
    split at h
    · cases h
    · cases h
      rfl
  simp [sameParent, haddress ha, haddress hb]

/-- Reading along a run inside a loop, with what has been collected of the run before. -/
theorem framesOf_of_looped {run : List Cursor} (hne : run ≠ [])
    (hparent : ∀ f ∈ run, f.parent? = some p) (hloop : p.tag = "loop") {rest : List Cursor}
    (hrest : ∀ f ∈ run, ∀ g ∈ rest.head?, sameParent f g = false) {before shown : List Frame}
    (h : framesOf id sheet before (run ++ rest) = .ok shown) :
    ∃ frames count tail, run.mapM (frame id sheet) = .ok frames ∧
      loopCount p.element = .ok count ∧ framesOf id sheet [] rest = .ok tail ∧
      shown = frames ++
        (List.replicate (count - 1).toNat (before ++ frames)).flatten ++ tail := by
  induction run generalizing before shown with
  | nil => exact absurd rfl hne
  | cons f run ih =>
      rw [List.cons_append, framesOf] at h
      obtain ⟨x, hx, h⟩ := Attempt.bind_eq_ok_iff.1 h
      rw [loop?_of_parent (hparent f List.mem_cons_self), if_pos hloop] at h
      dsimp only at h
      cases run with
      | nil =>
          -- The run ends here, and its loop closes.
          have hlast : (rest.head?.map (sameParent f)).getD false = false := by
            cases hhead : rest.head? with
            | none => rfl
            | some g => exact hrest f List.mem_cons_self g hhead
          rw [List.nil_append, if_neg (by simp [hlast])] at h
          obtain ⟨count, hcount, h⟩ := Attempt.bind_eq_ok_iff.1 h
          obtain ⟨tail, htail, h⟩ := Attempt.bind_eq_ok_iff.1 h
          cases h
          refine ⟨[x], count, tail, ?_, hcount, htail, by simp⟩
          rw [Attempt.mapM_eq_ok_iff]
          exact .cons hx .nil
      | cons g run =>
          have hnext : sameParent f g = true :=
            sameParent_of_parent (hparent f List.mem_cons_self)
              (hparent g (List.mem_cons_of_mem f List.mem_cons_self))
          rw [if_pos (by simp [hnext])] at h
          obtain ⟨more, hmore, h⟩ := Attempt.bind_eq_ok_iff.1 h
          cases h
          obtain ⟨frames, count, tail, hframes, hcount, htail, rfl⟩ := ih (List.cons_ne_nil g run)
            (fun e he => hparent e (List.mem_cons_of_mem f he))
            (fun e he => hrest e (List.mem_cons_of_mem f he)) hmore
          refine ⟨x :: frames, count, tail, ?_, hcount, htail, by simp⟩
          rw [Attempt.mapM_eq_ok_iff] at hframes ⊢
          exact .cons hx hframes

/-- Reading along frames that are in no loop. -/
theorem framesOf_of_loose {run : List Cursor} (hparent : ∀ f ∈ run, f.parent? = some p)
    (hloop : p.tag ≠ "loop") {rest : List Cursor} {shown : List Frame}
    (h : framesOf id sheet [] (run ++ rest) = .ok shown) :
    ∃ frames tail, run.mapM (frame id sheet) = .ok frames ∧
      framesOf id sheet [] rest = .ok tail ∧ shown = frames ++ tail := by
  induction run generalizing shown with
  | nil => exact ⟨[], shown, rfl, h, rfl⟩
  | cons f run ih =>
      rw [List.cons_append, framesOf] at h
      obtain ⟨x, hx, h⟩ := Attempt.bind_eq_ok_iff.1 h
      rw [loop?_of_parent (hparent f List.mem_cons_self), if_neg hloop] at h
      dsimp only at h
      obtain ⟨more, hmore, h⟩ := Attempt.bind_eq_ok_iff.1 h
      cases h
      obtain ⟨frames, tail, hframes, htail, rfl⟩ :=
        ih (fun e he => hparent e (List.mem_cons_of_mem f he)) hmore
      refine ⟨x :: frames, tail, ?_, htail, rfl⟩
      rw [Attempt.mapM_eq_ok_iff] at hframes ⊢
      exact .cons hx hframes

theorem flatten_replicate_max (count : Int) (frames : List Frame) :
    frames ++ (List.replicate (count - 1).toNat frames).flatten =
      (List.replicate (max 1 count).toNat frames).flatten := by
  have hmax : (max 1 count).toNat = (count - 1).toNat + 1 := by omega
  rw [hmax, List.replicate_succ, List.flatten_cons]

/-- Reading along a run shows its frames as often as the element around them says. -/
theorem framesOf_of_run {run : List Cursor} (hne : run ≠ [])
    (hparent : ∀ f ∈ run, f.parent? = some p) {rest : List Cursor}
    (hrest : ∀ f ∈ run, ∀ g ∈ rest.head?, sameParent f g = false) {shown : List Frame}
    (h : framesOf id sheet [] (run ++ rest) = .ok shown) :
    ∃ first tail, Repeated id sheet run first ∧ framesOf id sheet [] rest = .ok tail ∧
      shown = first ++ tail := by
  by_cases hloop : p.tag = "loop"
  · obtain ⟨frames, count, tail, hframes, hcount, htail, rfl⟩ :=
      framesOf_of_looped hne hparent hloop hrest h
    rw [List.nil_append, flatten_replicate_max]
    refine ⟨_, tail, ⟨p, frames, hparent, hframes, ?_⟩, htail, rfl⟩
    rw [if_pos hloop]
    exact ⟨count, hcount, rfl⟩
  · obtain ⟨frames, tail, hframes, htail, rfl⟩ := framesOf_of_loose hparent hloop h
    refine ⟨frames, tail, ⟨p, frames, hparent, hframes, ?_⟩, htail, rfl⟩
    rw [if_neg hloop]

theorem exists_parent_of_chain {run : List Cursor} (hne : run ≠ [])
    (hrun : ∀ f ∈ run, f ∈ c.descendants)
    (hchain : run.IsChain fun a b => a.parent? = b.parent?) :
    ∃ p, ∀ f ∈ run, f.parent? = some p := by
  induction run with
  | nil => exact absurd rfl hne
  | cons f run ih =>
      cases run with
      | nil =>
          obtain ⟨p, -, hp⟩ := Cursor.exists_parent (hrun f List.mem_cons_self)
          refine ⟨p, fun e he => ?_⟩
          rw [List.mem_singleton.1 he]
          exact Cursor.parent?_of_mem_children hp
      | cons g run =>
          obtain ⟨hfg, hchain⟩ := List.isChain_cons_cons.1 hchain
          obtain ⟨p, hp⟩ := ih (List.cons_ne_nil g run)
            (fun e he => hrun e (List.mem_cons_of_mem f he)) hchain
          refine ⟨p, fun e he => ?_⟩
          rcases List.mem_cons.1 he with rfl | he
          · rw [hfg]
            exact hp g List.mem_cons_self
          · exact hp e he

/-- The frames of all runs are those of one run after the other. -/
theorem repeated_of_runs {runs : List (List Cursor)} {frames : List Cursor}
    (hframes : ∀ f ∈ frames, f ∈ c.descendants) (hruns : Runs frames runs) {shown : List Frame}
    (h : framesOf id sheet [] frames = .ok shown) :
    ∃ parts, List.Forall₂ (Repeated id sheet) runs parts ∧ shown = parts.flatten := by
  induction runs generalizing frames shown with
  | nil =>
      rw [← hruns.flatten] at h
      cases h
      exact ⟨[], .nil, rfl⟩
  | cons run runs ih =>
      obtain ⟨hflat, hnil, htogether, hapart⟩ := hruns
      rw [List.flatten_cons] at hflat
      have hmem : ∀ f ∈ run ++ runs.flatten, f ∈ c.descendants := hflat.symm ▸ hframes
      have hne : run ≠ [] := fun h => hnil (h ▸ List.mem_cons_self)
      obtain ⟨p, hp⟩ := exists_parent_of_chain hne
        (fun f hf => hmem f (List.mem_append_left _ hf)) (htogether run List.mem_cons_self)
      have hrest : ∀ f ∈ run, ∀ g ∈ runs.flatten.head?, sameParent f g = false := by
        intro f hf g hg
        cases runs with
        | nil => cases hg
        | cons next runs =>
            have hnext : next ≠ [] := fun h =>
              hnil (h ▸ List.mem_cons_of_mem run List.mem_cons_self)
            rw [List.flatten_cons, List.head?_append_of_ne_nil next hnext] at hg
            have hlast := (List.isChain_cons_cons.1 hapart).1 _
              (List.getLast?_eq_some_getLast hne) g hg
            have hgmem : g ∈ c.descendants := by
              refine hmem g (List.mem_append_right run ?_)
              exact List.mem_append_left _ (List.mem_of_head? hg)
            rw [Bool.eq_false_iff, Ne,
              sameParent_iff (hmem f (List.mem_append_left _ hf)) hgmem, hp f hf,
              ← hp _ (List.getLast_mem hne)]
            exact hlast
      obtain ⟨first, tail, hfirst, htail, rfl⟩ := framesOf_of_run hne hp hrest (hflat ▸ h)
      obtain ⟨parts, hparts, rfl⟩ := ih (fun f hf => hmem f (List.mem_append_right run hf))
        ⟨rfl, fun h => hnil (List.mem_cons_of_mem run h),
          fun r hr => htogether r (List.mem_cons_of_mem run hr), hapart.of_cons⟩ htail
      exact ⟨first :: parts, .cons hfirst hparts, rfl⟩

/-- How often the frames directly inside an element are shown. -/
def times (parent : Cursor) : Nat :=
  if parent.tag = "loop" then (max 1 ((loopCount parent.element).toOption.getD 1)).toNat else 1

theorem length_of_repeated {run : List Cursor} {shown : List Frame}
    (h : Repeated id sheet run shown) :
    shown.length = (run.map fun f => f.parent?.elim 0 times).sum := by
  obtain ⟨p, frames, hp, hframes, hshown⟩ := h
  have hlength : shown.length = run.length * times p := by
    rw [(Attempt.mapM_eq_ok_iff.1 hframes).length_eq]
    unfold times
    split at hshown
    · rename_i hloop
      obtain ⟨count, hcount, rfl⟩ := hshown
      rw [if_pos hloop, hcount, List.length_flatten, List.map_replicate, List.sum_replicate,
        smul_eq_mul, mul_comm]
      rfl
    · rename_i hloop
      rw [if_neg hloop, hshown, mul_one]
  have hconst : (run.map fun f => f.parent?.elim 0 times) = run.map fun _ => times p :=
    List.map_congr_left fun f hf => by rw [hp f hf]; rfl
  rw [hlength, hconst, List.map_const', List.sum_replicate, smul_eq_mul]

theorem length_of_runs {runs : List (List Cursor)} {parts : List (List Frame)}
    (h : List.Forall₂ (Repeated id sheet) runs parts) :
    parts.flatten.length = (runs.flatten.map fun f => f.parent?.elim 0 times).sum := by
  induction h with
  | nil => rfl
  | cons hrun _ ih =>
      rw [List.flatten_cons, List.flatten_cons, List.length_append, List.map_append,
        List.sum_append, ih, length_of_repeated hrun]

/-- Frames that are in no loop count once, those of a loop as often as they are shown. -/
theorem sum_times (c : Cursor) (hc : c.tag ≠ "loop") :
    ((c.tagged "frame").map fun f => f.parent?.elim 0 times).sum =
      ((c.tagged "frame").filter fun f => (loop? f).isNone).length +
        ((c.tagged "loop").map fun l => (l.childrenTagged "frame").length * times l).sum := by
  have hloose (fs : List Cursor) (hfs : ∀ f ∈ fs, f ∈ c.descendants) :
      (fs.filter fun f => (loop? f).isNone).length =
        (fs.map fun f => f.parent?.elim 0 fun p => if p.tag = "loop" then 0 else 1).sum := by
    induction fs with
    | nil => rfl
    | cons f fs ih =>
        have hrest := ih fun g hg => hfs g (List.mem_cons_of_mem f hg)
        obtain ⟨p, -, hp⟩ := Cursor.exists_parent (hfs f List.mem_cons_self)
        have hparent := Cursor.parent?_of_mem_children hp
        rw [List.filter_cons, List.map_cons, List.sum_cons, ← hrest, loop?_of_parent hparent,
          hparent]
        by_cases hloop : p.tag = "loop" <;> simp [hloop, Nat.add_comm]
  have hsplit (ps : List Cursor) :
      (ps.map fun p => (p.childrenTagged "frame").length * times p).sum =
        (ps.map fun p => (p.childrenTagged "frame").length * if p.tag = "loop" then 0 else 1).sum +
          ((ps.filter (·.tag = "loop")).map fun l =>
            (l.childrenTagged "frame").length * times l).sum := by
    induction ps with
    | nil => rfl
    | cons p ps ih =>
        rw [List.map_cons, List.sum_cons, ih]
        by_cases hloop : p.tag = "loop"
        · simp [hloop]
          omega
        · simp [hloop, times]
          omega
  have hmem : ∀ f ∈ c.tagged "frame", f ∈ c.descendants := fun f hf => (List.mem_filter.1 hf).1
  have hloops : (c :: c.descendants).filter (·.tag = "loop") = c.tagged "loop" :=
    List.filter_cons_of_neg (by simpa using hc)
  rw [Cursor.sum_tagged, hsplit, hloops, hloose _ hmem, Cursor.sum_tagged]

/-- The frames of an animation are those of its runs, one after the other, each run as often as the
element around it says. Frames in no loop count once, and those of a loop as often as it says. -/
theorem frames_of_runs {sheet : Option Vec2} {a : Animation} (htag : c.tag = "animation")
    (h : ofElement c sheet = .ok a) :
    ∃ size runs parts, usableSheet sheet = some size ∧
      (∀ cut, Runs (c.tagged "frame") cut ↔ cut = runs) ∧
      List.Forall₂ (Repeated (c.get? "id") size) runs parts ∧ a.frames = parts.flatten ∧
      ∃ counts : Cursor → Int,
        (∀ l ∈ c.tagged "loop", l.childrenTagged "frame" ≠ [] →
          loopCount l.element = .ok (counts l)) ∧
        a.frames.length = ((c.tagged "frame").filter fun f => (loop? f).isNone).length +
          ((c.tagged "loop").map fun l =>
            (l.childrenTagged "frame").length * (max 1 (counts l)).toNat).sum := by
  have hframes : ∀ f ∈ c.tagged "frame", f ∈ c.descendants := fun f hf => (List.mem_filter.1 hf).1
  have helements : frameElements c = c.tagged "frame" :=
    List.filter_cons_of_neg (by simp [htag])
  unfold ofElement at h
  dsimp only at h
  split at h
  · cases h
  · rename_i size hsize
    obtain ⟨shown, hshown, h⟩ := Attempt.bind_eq_ok_iff.1 h
    cases h
    rw [helements] at hshown
    have hruns := (runs_iff hframes).2 rfl
    obtain ⟨parts, hparts, rfl⟩ := repeated_of_runs hframes hruns hshown
    refine ⟨size, _, parts, hsize, fun _ => runs_iff hframes, hparts, rfl,
      fun l => (loopCount l.element).toOption.getD 1, ?_, ?_⟩
    · intro l hl hinside
      obtain ⟨f, hf⟩ := List.exists_mem_of_ne_nil _ hinside
      obtain ⟨hf, htag⟩ := List.mem_filter.1 hf
      have hbelow : f ∈ c.tagged "frame" :=
        List.mem_filter.2 ⟨Cursor.mem_descendants_iff.2 (.inr ⟨l, (List.mem_filter.1 hl).1, hf⟩),
          htag⟩
      rw [← hruns.flatten] at hbelow
      obtain ⟨run, hrun, hmem⟩ := List.mem_flatten.1 hbelow
      obtain ⟨part, -, p, frames, hp, -, hpart⟩ := Attempt.exists_mem_of_forall₂_left hparts hrun
      cases (hp f hmem).symm.trans (Cursor.parent?_of_mem_children hf)
      rw [if_pos (Cursor.tag_of_mem_tagged hl)] at hpart
      obtain ⟨count, hcount, -⟩ := hpart
      dsimp only
      rw [hcount]
      rfl
    · have hlength := length_of_runs hparts
      rw [hruns.flatten, sum_times c (by simp [htag])] at hlength
      rw [hlength]
      congr 2
      refine List.map_congr_left fun l hl => ?_
      rw [times, if_pos (Cursor.tag_of_mem_tagged hl)]

/-- An animation of a frame, a loop of two frames and another frame. -/
def spin : Cursor :=
  .ofDocument
    ⟨⟨"animation", [("w", "8"), ("h", "8")], 1, [.element "frame" [] 1 [],
      .element "loop" [("count", "3")] 1 [.element "frame" [] 1 [], .element "frame" [] 1 []],
      .element "frame" [] 1 []]⟩, none⟩

theorem frames_of_runs_spin :
    ∃ a size runs parts, spin.tag = "animation" ∧ ofElement spin (some ⟨16, 16⟩) = .ok a ∧
      (∀ cut, Runs (spin.tagged "frame") cut ↔ cut = runs) ∧
      List.Forall₂ (Repeated (spin.get? "id") size) runs parts ∧ a.frames = parts.flatten ∧
      a.frames.length = 8 := by
  have hlength : (ofElement spin (some ⟨16, 16⟩)).toOption.map (·.frames.length) = some 8 := by
    decide +kernel
  obtain ⟨a, ha⟩ : ∃ a, ofElement spin (some ⟨16, 16⟩) = .ok a := by
    refine Attempt.exists_eq_ok ?_
    rw [← Option.isSome_map, hlength]
    rfl
  obtain ⟨size, runs, parts, -, hcut, hparts, hframes, -⟩ := frames_of_runs rfl ha
  rw [ha] at hlength
  exact ⟨a, size, runs, parts, rfl, ha, hcut, hparts, hframes, Option.some.inj hlength⟩

end Animation

end Stagecraft
