import Mathlib
import Stagecraft.Proofs.Flaws
import Stagecraft.Proofs.Selecting

/-!
# Sizes of frames

A sheet and a frame have sizes, and a size is refused if a component of it compares as at most
zero. What is not a number compares as nothing, so it is not refused. `sized_of_ofElement` says what
can be relied on for the sheet and for every frame, wherever its size comes from, and what becomes
of an animation that has another size somewhere.
-/

namespace Stagecraft

open Markup

/-- What does not compare as at most zero is positive, or is not a number. -/
theorem not_le_zero_iff {x : Float} : ¬x ≤ 0 ↔ 0 < x ∨ x.isNaN = true := by
  have hzero : (0 : Float).toModel.unpack = .zero .positive := rfl
  have hle : x ≤ 0 ↔ (Float.Model.UnpackedFloat.compare x.toModel.unpack
      (.zero .positive)).any (·.isLE) = true := by
    rw [← hzero]
    exact decide_eq_true_iff
  have hlt : 0 < x ↔
      Float.Model.UnpackedFloat.compare (.zero .positive) x.toModel.unpack = some .lt := by
    rw [← hzero]
    exact decide_eq_true_iff.trans beq_iff_eq
  have hnan : x.isNaN = x.toModel.unpack.isNaN := rfl
  rw [hle, hlt, hnan]
  cases x.toModel.unpack with
  | notANumber => decide
  | infinity s => cases s <;> decide
  | zero s => cases s <;> decide
  | finite s m e h =>
      cases s <;> simp [Float.Model.UnpackedFloat.compare, Float.Model.UnpackedFloat.isNaN]

namespace Vec2

/-- Both components are positive. -/
structure Positive (v : Vec2) : Prop where
  x : 0 < v.x
  y : 0 < v.y

/-- Each component is positive, or is not a number. -/
structure Passes (v : Vec2) : Prop where
  x : 0 < v.x ∨ v.x.isNaN = true
  y : 0 < v.y ∨ v.y.isNaN = true

/-- The sizes that pass are the ones that are not refused. -/
theorem passes_iff {v : Vec2} : v.Passes ↔ (decide (v.x ≤ 0) || decide (v.y ≤ 0)) = false := by
  rw [Bool.or_eq_false_iff, decide_eq_false_iff_not, decide_eq_false_iff_not, not_le_zero_iff,
    not_le_zero_iff]
  exact ⟨fun h => ⟨h.x, h.y⟩, fun h => ⟨h.1, h.2⟩⟩

theorem Positive.passes {v : Vec2} (h : v.Positive) : v.Passes := ⟨.inl h.x, .inl h.y⟩

end Vec2

namespace Animation

/-- A frame has the size of the first element that has a width and a height, of itself and the two
elements around it. -/
def HasSize (frame : Cursor) (size : Vec2) : Prop :=
  ∃ k ≤ 2, ∃ d, frame.ancestor? k = some d ∧ d.vec2? "w" "h" = .ok (some size) ∧
    ∀ j < k, ∀ e, frame.ancestor? j = some e → e.vec2? "w" "h" = .ok none

variable {id : Option String} {sheet size : Vec2} {frame c : Cursor}

theorem usableSheet_eq_some_iff {sheet : Option Vec2} :
    usableSheet sheet = some size ↔ sheet = some size ∧ size.Passes := by
  rw [usableSheet, Option.filter_eq_some_iff, Vec2.passes_iff, Bool.not_eq_true']

/-! ### Where a size comes from -/

theorem getElem?_sizeSources {k : Nat} (hk : k ≤ 2) :
    (sizeSources frame)[k]? = frame.ancestor? k := by
  unfold sizeSources
  dsimp only
  cases hp : frame.parent? with
  | none =>
      obtain _ | _ | _ | k := k
      · rfl
      · simp [Cursor.ancestor?, hp]
      · simp [Cursor.ancestor?, hp]
      · omega
  | some p =>
      obtain _ | _ | _ | k := k
      · rfl
      · simp [Cursor.ancestor?, hp]
      · cases hg : p.parent? <;> simp [Cursor.ancestor?, hp, hg]
      · omega

theorem length_sizeSources_le (frame : Cursor) : (sizeSources frame).length ≤ 3 := by
  unfold sizeSources
  cases hp : frame.parent? with
  | none => simp
  | some p => cases hg : p.parent? <;> simp [hg]

/-- The first one of some elements that has a width and a height decides, and it may be refused. -/
theorem sizeAmong_eq_ok_iff {candidates : List Cursor} :
    sizeAmong id frame candidates = .ok size ↔
      (∃ (k : Nat) (d : Cursor), candidates[k]? = some d ∧ d.vec2? "w" "h" = .ok (some size) ∧
        ∀ j < k, ∀ e, candidates[j]? = some e → e.vec2? "w" "h" = .ok none) ∧ size.Passes := by
  induction candidates with
  | nil =>
      refine iff_of_false (fun h => by cases h) ?_
      rintro ⟨⟨k, d, hd, -⟩, -⟩
      cases hd
  | cons candidate rest ih =>
      unfold sizeAmong
      rw [Attempt.bind_eq_ok_iff]
      constructor
      · rintro ⟨given, hgiven, h⟩
        cases given with
        | some own =>
            dsimp only at h
            split at h
            · cases h
            · rename_i hpasses
              cases h
              refine ⟨⟨0, candidate, rfl, hgiven, fun j hj => absurd hj (Nat.not_lt_zero j)⟩, ?_⟩
              exact Vec2.passes_iff.2 (Bool.eq_false_iff.2 hpasses)
        | none =>
            obtain ⟨⟨k, d, hd, hsize, hfirst⟩, hpasses⟩ := ih.1 h
            refine ⟨⟨k + 1, d, hd, hsize, fun j hj e he => ?_⟩, hpasses⟩
            cases j with
            | zero =>
                cases he
                exact hgiven
            | succ j => exact hfirst j (Nat.lt_of_succ_lt_succ hj) e he
      · rintro ⟨⟨k, d, hd, hsize, hfirst⟩, hpasses⟩
        cases k with
        | zero =>
            cases hd
            refine ⟨some size, hsize, ?_⟩
            exact if_neg (Bool.eq_false_iff.1 (Vec2.passes_iff.1 hpasses))
        | succ k =>
            refine ⟨none, hfirst 0 (Nat.succ_pos k) candidate rfl,
              ih.2 ⟨⟨k, d, hd, hsize, ?_⟩, hpasses⟩⟩
            exact fun j hj e he => hfirst (j + 1) (Nat.succ_lt_succ hj) e he

theorem sizeAmong_sizeSources_iff :
    sizeAmong id frame (sizeSources frame) = .ok size ↔ HasSize frame size ∧ size.Passes := by
  rw [sizeAmong_eq_ok_iff]
  refine and_congr_left fun _ => ?_
  constructor
  · rintro ⟨k, d, hd, hsize, hfirst⟩
    have hk : k ≤ 2 := by
      have hlt := (List.getElem?_eq_some_iff.1 hd).1
      have hle := length_sizeSources_le frame
      omega
    rw [getElem?_sizeSources hk] at hd
    refine ⟨k, hk, d, hd, hsize, fun j hj e he => hfirst j hj e ?_⟩
    rwa [getElem?_sizeSources (by omega)]
  · rintro ⟨k, hk, d, hd, hsize, hfirst⟩
    rw [← getElem?_sizeSources hk] at hd
    refine ⟨k, d, hd, hsize, fun j hj e he => hfirst j hj e ?_⟩
    rwa [← getElem?_sizeSources (by omega)]

/-! ### Frames -/

/-- A frame that is read has a size that passes, and its quad is one of this size. -/
theorem size_of_frame {f : Frame} (h : Animation.frame id sheet c = .ok f) :
    ∃ size offset, HasSize c size ∧ size.Passes ∧
      TextureQuad.ofPixels? offset size sheet = some f.quad := by
  unfold Animation.frame at h
  obtain ⟨offset, -, h⟩ := Attempt.bind_eq_ok_iff.1 h
  obtain ⟨size, hsize, h⟩ := Attempt.bind_eq_ok_iff.1 h
  obtain ⟨hsize, hpasses⟩ := sizeAmong_sizeSources_iff.1 hsize
  dsimp only at h
  split at h
  · cases h
  · rename_i quad hquad
    obtain ⟨_, -, h⟩ := Attempt.bind_eq_ok_iff.1 h
    cases h
    exact ⟨size, offset.getD {}, hsize, hpasses, hquad⟩

/-- A frame without a size that passes is reported on every sheet, even on one that quads cannot be
taken from. -/
theorem frame_of_unsized (h : ¬∃ size, HasSize c size ∧ size.Passes) (id : Option String)
    (sheet : Vec2) : ∃ f, Animation.frame id sheet c = .error f ∧ f.isDefect = true := by
  unfold Animation.frame
  cases hoffset : c.vec2? "x" "y" with
  | error f => exact ⟨f, rfl, c.reports_vec2? "x" "y" f hoffset⟩
  | ok offset =>
      cases hsize : sizeAmong id c (sizeSources c) with
      | error f => exact ⟨f, rfl, reports_sizeAmong id c _ f hsize⟩
      | ok size => exact absurd ⟨size, sizeAmong_sizeSources_iff.1 hsize⟩ h

/-- If frames are read, then each of them is, and nothing else is shown. -/
theorem frame_of_framesOf {cs : List Cursor} {run shown : List Frame}
    (h : framesOf id sheet run cs = .ok shown) :
    (∀ c ∈ cs, ∃ f, Animation.frame id sheet c = .ok f) ∧
      ∀ f ∈ shown, f ∈ run ∨ ∃ c ∈ cs, Animation.frame id sheet c = .ok f := by
  induction cs generalizing run shown with
  | nil =>
      cases h
      exact ⟨by simp, by simp⟩
  | cons c rest ih =>
      unfold framesOf at h
      obtain ⟨f, hf, h⟩ := Attempt.bind_eq_ok_iff.1 h
      -- What is shown is this frame, what the run holds by now, or what is shown further on.
      have hstep {before more : List Frame} (hbefore : ∀ g ∈ before, g ∈ run ∨ g = f)
          (hmore : framesOf id sheet before rest = .ok more) :
          (∀ d ∈ c :: rest, ∃ g, Animation.frame id sheet d = .ok g) ∧
            ∀ g ∈ more, g ∈ run ∨ ∃ d ∈ c :: rest, Animation.frame id sheet d = .ok g := by
        obtain ⟨hall, hshown⟩ := ih hmore
        refine ⟨List.forall_mem_cons.2 ⟨⟨f, hf⟩, hall⟩, fun g hg => ?_⟩
        rcases hshown g hg with hg | ⟨d, hd, hg⟩
        · rcases hbefore g hg with hg | rfl
          · exact .inl hg
          · exact .inr ⟨c, List.mem_cons_self, hf⟩
        · exact .inr ⟨d, List.mem_cons_of_mem c hd, hg⟩
      have hthis : f ∈ run ∨ ∃ d ∈ c :: rest, Animation.frame id sheet d = .ok f :=
        .inr ⟨c, List.mem_cons_self, hf⟩
      have hrun : ∀ g ∈ run ++ [f], g ∈ run ∨ g = f := by simp
      split at h
      · obtain ⟨more, hmore, h⟩ := Attempt.bind_eq_ok_iff.1 h
        cases h
        obtain ⟨hall, hshown⟩ := hstep (fun g hg => .inl hg) hmore
        exact ⟨hall, List.forall_mem_cons.2 ⟨hthis, hshown⟩⟩
      · dsimp only at h
        split at h
        · obtain ⟨more, hmore, h⟩ := Attempt.bind_eq_ok_iff.1 h
          cases h
          obtain ⟨hall, hshown⟩ := hstep hrun hmore
          exact ⟨hall, List.forall_mem_cons.2 ⟨hthis, hshown⟩⟩
        · obtain ⟨n, -, h⟩ := Attempt.bind_eq_ok_iff.1 h
          obtain ⟨more, hmore, h⟩ := Attempt.bind_eq_ok_iff.1 h
          cases h
          obtain ⟨hall, hshown⟩ := hstep (fun g hg => absurd hg List.not_mem_nil) hmore
          refine ⟨hall, List.forall_mem_cons.2 ⟨hthis, fun g hg => ?_⟩⟩
          rcases List.mem_append.1 hg with hg | hg
          · obtain ⟨frames, hframes, hg⟩ := List.mem_flatten.1 hg
            rw [List.eq_of_mem_replicate hframes] at hg
            rcases hrun g hg with hg | rfl
            · exact .inl hg
            · exact hthis
          · exact hshown g hg

/-! ### Animations -/

/-- An animation that is read has a sheet and frames of sizes that pass: positive ones, or with a
component that is not a number. A sheet of another size is reported. With a frame of another size
there is a report or a loop whose count is too long, and a division by zero is never tried. -/
theorem sized_of_ofElement (c : Cursor) (sheet : Option Vec2) :
    (∀ a, ofElement c sheet = .ok a →
      ∃ whole, sheet = some whole ∧ whole.Passes ∧
        (∀ frame ∈ frameElements c, ∃ size, HasSize frame size ∧ size.Passes) ∧
        ∀ f ∈ a.frames, ∃ frame ∈ frameElements c, ∃ size offset, HasSize frame size ∧
          TextureQuad.ofPixels? offset size whole = some f.quad) ∧
    ((¬∃ whole, sheet = some whole ∧ whole.Passes) →
      ofElement c sheet = .error (.defect (.sheetSize (c.get? "id")) c.element)) ∧
    ((∃ frame ∈ frameElements c, ¬∃ size, HasSize frame size ∧ size.Passes) →
      ∃ f, ofElement c sheet = .error f ∧ f.DefectOr (Flaw c)) ∧
    (∀ frame ∈ frameElements c, (¬∃ size, HasSize frame size ∧ size.Passes) →
      ∀ other, ∃ f, Animation.frame (c.get? "id") other frame = .error f ∧ f.isDefect = true) ∧
    ofElement c sheet ≠ .error .divisionByZero := by
  have hsized (a : Animation) (h : ofElement c sheet = .ok a) :
      ∀ frame ∈ frameElements c, ∃ size, HasSize frame size ∧ size.Passes := by
    obtain ⟨whole, -, hframes⟩ := framesOf_of_ofElement h
    intro frame hframe
    obtain ⟨f, hf⟩ := (frame_of_framesOf hframes).1 frame hframe
    obtain ⟨size, -, hsize, hpasses, -⟩ := size_of_frame hf
    exact ⟨size, hsize, hpasses⟩
  have hfault (f : Fault) (h : ofElement c sheet = .error f) : f.DefectOr (Flaw c) :=
    failsIn_ofElement c sheet f h
  refine ⟨fun a h => ?_, fun h => ?_, fun ⟨frame, hframe, h⟩ => ?_, fun frame _ h other => ?_,
    fun h => ?_⟩
  · obtain ⟨whole, hwhole, hframes⟩ := framesOf_of_ofElement h
    obtain ⟨rfl, hpasses⟩ := usableSheet_eq_some_iff.1 hwhole
    refine ⟨whole, rfl, hpasses, hsized a h, fun f hf => ?_⟩
    rcases (frame_of_framesOf hframes).2 f hf with hf | ⟨frame, hframe, hf⟩
    · cases hf
    · obtain ⟨size, offset, hsize, -, hquad⟩ := size_of_frame hf
      exact ⟨frame, hframe, size, offset, hsize, hquad⟩
  · have hnone : usableSheet sheet = none := by
      rw [Option.eq_none_iff_forall_ne_some]
      exact fun whole hwhole => h ⟨whole, usableSheet_eq_some_iff.1 hwhole⟩
    unfold ofElement
    rw [hnone]
    rfl
  · cases hresult : ofElement c sheet with
    | ok a => exact absurd (hsized a hresult frame hframe) h
    | error f => exact ⟨f, rfl, hfault f hresult⟩
  · exact frame_of_unsized h _ other
  · rcases hfault _ h with h | h
    · cases h
    · cases h.1

/-- An animation of one frame, with the width of the animation. -/
def still (width : String) : Cursor :=
  .ofDocument
    ⟨⟨"animation", [("w", width), ("h", "8")], 1, [.element "frame" [] 1 []]⟩, none⟩

theorem sized_of_ofElement_still :
    (∃ a, ofElement (still "8") (some ⟨16, 16⟩) = .ok a ∧
      ∀ frame ∈ frameElements (still "8"), ∃ size, HasSize frame size ∧ size.Passes) ∧
    (¬∃ whole, some (⟨0, 16⟩ : Vec2) = some whole ∧ whole.Passes) ∧
    ofElement (still "8") (some ⟨0, 16⟩) =
      .error (.defect (.sheetSize none) (still "8").element) ∧
    (∃ frame ∈ frameElements (still "-8"), ¬∃ size, HasSize frame size ∧ size.Passes) ∧
    ∃ f, ofElement (still "-8") (some ⟨16, 16⟩) = .error f ∧ f.DefectOr (Flaw (still "-8")) := by
  obtain ⟨a, ha⟩ : ∃ a, ofElement (still "8") (some ⟨16, 16⟩) = .ok a :=
    Attempt.exists_eq_ok (by decide +kernel)
  obtain ⟨whole, -, -, hframes, -⟩ := (sized_of_ofElement (still "8") (some ⟨16, 16⟩)).1 a ha
  have hsheet : ¬∃ whole, some (⟨0, 16⟩ : Vec2) = some whole ∧ whole.Passes := by
    rintro ⟨whole, h, hpasses⟩
    cases h
    exact Bool.eq_false_iff.1 (Vec2.passes_iff.1 hpasses) (by decide +kernel)
  have hnone : (frameElements (still "-8")).any (fun frame =>
      (sizeAmong none frame (sizeSources frame)).toOption.isNone) = true := by decide +kernel
  have hframe : ∃ frame ∈ frameElements (still "-8"),
      ¬∃ size, HasSize frame size ∧ size.Passes := by
    obtain ⟨frame, hmem, hnone⟩ := List.any_eq_true.1 hnone
    refine ⟨frame, hmem, fun ⟨size, hsize⟩ => ?_⟩
    rw [sizeAmong_sizeSources_iff.2 hsize] at hnone
    cases hnone
  exact ⟨⟨a, ha, hframes⟩, hsheet, (sized_of_ofElement (still "8") (some ⟨0, 16⟩)).2.1 hsheet,
    hframe, (sized_of_ofElement (still "-8") (some ⟨16, 16⟩)).2.2.1 hframe⟩

/-- A width that is not a number is taken. -/
theorem not_positive_of_ofElement :
    ¬∀ (c : Cursor) (sheet : Option Vec2) (a : Animation), ofElement c sheet = .ok a →
      ∀ frame ∈ frameElements c, ∃ size, HasSize frame size ∧ size.Positive := by
  intro h
  obtain ⟨a, ha⟩ : ∃ a, ofElement (still "nan") (some ⟨16, 16⟩) = .ok a :=
    Attempt.exists_eq_ok (by decide +kernel)
  have hwidth : (frameElements (still "nan")).any (fun frame =>
      (sizeAmong none frame (sizeSources frame)).toOption.all fun size => !decide (0 < size.x)) =
        true := by decide +kernel
  obtain ⟨frame, hmem, hwidth⟩ := List.any_eq_true.1 hwidth
  obtain ⟨size, hsize, hpositive⟩ := h _ _ a ha frame hmem
  rw [sizeAmong_sizeSources_iff.2 ⟨hsize, hpositive.passes⟩] at hwidth
  simp [Except.toOption, hpositive.x] at hwidth

end Animation

end Stagecraft
