import Stagecraft.Proofs.Attempt
import Stagecraft.Proofs.Drawing
import Stagecraft.Proofs.Readings

/-!
# Drawing again

What drawing changes is an overlay of faces. Which faces these are depends on how many of them the
planes have, and not on what they show (`Animator.Lays`). An overlay on top of itself changes
nothing, so that animators may draw what they have drawn once more, whatever planes they are
attached to and whatever quads they share (`Entity.runAnimators_again`).
-/

namespace Stagecraft

namespace Plane

theorem Redrawn.symm {p r : Plane} (h : p.Redrawn r) : r.Redrawn p :=
  ⟨h.width.symm, h.height.symm, h.across.symm, h.down.symm, h.faceCount.symm⟩

theorem Redrawn.eq {p r : Plane} (h : p.Redrawn r) (hfaces : ∀ k : Nat, r.faces[k]? = p.faces[k]?) :
    r = p := by
  obtain ⟨hwidth, hheight, hacross, hdown, -⟩ := h
  cases p
  cases r
  rw [Plane.mk.injEq]
  exact ⟨hwidth, hheight, hacross, hdown, List.ext_getElem? hfaces⟩

theorem lt_of_position? {n x : Nat} {index : Int} (h : position? n index = some x) : x < n := by
  unfold position? at h
  generalize (if index < 0 then index + n else index) = i at h
  dsimp only at h
  split at h
  · rename_i hbounds
    rw [Bool.and_eq_true, decide_eq_true_eq, decide_eq_true_eq] at hbounds
    cases h
    omega
  · cases h

end Plane

namespace Animator

/-- Planes that only differ by what they show. -/
abbrev Likewise (ps qs : List Plane) : Prop := List.Forall₂ Plane.Redrawn ps qs

/-- What a face shows, of a plane in a list. -/
def faceOf? (ps : List Plane) (i k : Nat) : Option Face := ps[i]?.bind (·.faces[k]?)

variable {ps qs rs ts : List Plane}

theorem Likewise.refl (ps : List Plane) : Likewise ps ps := List.forall₂_same.2 fun p _ => .refl p

theorem Likewise.symm (h : Likewise ps qs) : Likewise qs ps := (h.imp fun _ _ h => h.symm).flip

theorem Likewise.trans (h : Likewise ps qs) (h' : Likewise qs rs) : Likewise ps rs :=
  Attempt.forall₂_comp h h' fun _ _ _ => .trans

theorem Likewise.eq (h : Likewise ps qs) (hfaces : ∀ i k, faceOf? qs i k = faceOf? ps i k) :
    qs = ps := by
  induction h with
  | nil => rfl
  | cons hpq _ ih => rw [hpq.eq (hfaces 0), ih fun i => hfaces (i + 1)]

theorem Likewise.set {i : Nat} {p r : Plane} (hi : ps[i]? = some p) (h : p.Redrawn r) :
    Likewise ps (ps.set i r) := by
  induction ps generalizing i with
  | nil => cases hi
  | cons q ps ih =>
      cases i with
      | zero =>
          cases hi
          exact .cons h (Likewise.refl ps)
      | succ i => exact .cons (.refl q) (ih hi)

/-- Planes with some of their faces covered by others. -/
structure Laid (o : Nat → Nat → Option Face) (ps rs : List Plane) : Prop where
  likewise : Likewise ps rs
  face : ∀ i k, faceOf? rs i k = (o i k).or (faceOf? ps i k)

variable {o o' : Nat → Nat → Option Face}

theorem Laid.none (ps : List Plane) : Laid (fun _ _ => .none) ps ps := ⟨.refl ps, fun _ _ => rfl⟩

theorem Laid.append (h : Laid o ps rs) (h' : Laid o' rs ts) :
    Laid (fun i k => (o' i k).or (o i k)) ps ts :=
  ⟨h.likewise.trans h'.likewise, fun i k => by rw [h'.face, h.face, Option.or_assoc]⟩

/-- An overlay on top of itself changes nothing. -/
theorem Laid.again (h : Laid o ps rs) (h' : Laid o rs ts) : ts = rs := by
  refine h'.likewise.eq fun i k => ?_
  rw [h'.face, h.face]
  cases o i k <;> rfl

/-- A quad that fits on a plane is drawn if both of its faces have a position. -/
theorem run_drawQuad_eq_ok_iff (quad : TextureQuad) {i : Nat} {n : Int} {p : Plane}
    (hi : ps[i]? = some p) (hfit : ¬ (p.faceCount : Int) ≤ 2 * n + 1) :
    (drawQuad quad i n).run.run ps = (.ok (), rs) ↔
      ∃ x y, Plane.position? p.faceCount (2 * n) = some x ∧
        Plane.position? p.faceCount (2 * n + 1) = some y ∧
        rs = ps.set i { p with faces := (p.faces.set x quad.lower).set y quad.upper } := by
  have hcount (x : Nat) : Plane.faceCount { p with faces := p.faces.set x quad.lower } =
      p.faceCount := by simp [Plane.faceCount]
  rw [run_drawQuad_of_plane quad hi, if_neg hfit, Plane.setFace?]
  cases Plane.position? p.faceCount (2 * n) with
  | none => exact iff_of_false (by rintro ⟨⟩) (by simp)
  | some x =>
      simp only [Option.map_some, Plane.setFace?, hcount, Option.some.injEq, exists_and_left,
        exists_eq_left']
      cases Plane.position? p.faceCount (2 * n + 1) with
      | none => exact iff_of_false (by rintro ⟨⟩) (by simp)
      | some y =>
          simp only [Option.map_some, Option.some.injEq, exists_eq_left']
          constructor
          · rintro ⟨⟩
            rfl
          · rintro rfl
            rfl

/-- Work that lays an overlay on planes if it goes well, the same one on all planes like them. -/
def Lays (x : Draw Unit) : Prop :=
  ∀ ps rs, x.run.run ps = (.ok (), rs) →
    ∃ o, ∀ qs, Likewise ps qs → ∃ ts, x.run.run qs = (.ok (), ts) ∧ Laid o qs ts

namespace Lays

/-- What has gone well on some planes has laid its overlay on them. -/
theorem laid {x : Draw Unit} (hx : Lays x) (h : x.run.run ps = (.ok (), rs)) :
    ∃ o, Laid o ps rs ∧
      ∀ qs, Likewise ps qs → ∃ ts, x.run.run qs = (.ok (), ts) ∧ Laid o qs ts := by
  obtain ⟨o, ho⟩ := hx ps rs h
  obtain ⟨_, hrs, hlaid⟩ := ho ps (.refl ps)
  cases (Prod.ext_iff.1 (h.symm.trans hrs)).2
  exact ⟨o, hlaid, ho⟩

theorem nil : Lays (pure ()) := fun _ _ _ => ⟨fun _ _ => none, fun qs _ => ⟨qs, rfl, .none qs⟩⟩

theorem andThen {x y : Draw Unit} (hx : Lays x) (hy : Lays y) : Lays (x >>= fun _ => y) := by
  intro ps rs h
  rw [ExceptT.run_bind, StateT.run_bind] at h
  rcases hrun : x.run.run ps with ⟨_ | _, ms⟩
  · rw [hrun] at h
    cases h
  rw [hrun] at h
  obtain ⟨o, hms, ho⟩ := hx.laid hrun
  obtain ⟨o', ho'⟩ := hy ms rs h
  refine ⟨fun i k => (o' i k).or (o i k), fun qs hqs => ?_⟩
  obtain ⟨ns, hns, hfirst⟩ := ho qs hqs
  obtain ⟨ts, hts, hsecond⟩ := ho' ns (hms.likewise.symm.trans (hqs.trans hfirst.likewise))
  refine ⟨ts, ?_, hfirst.append hsecond⟩
  rw [ExceptT.run_bind, StateT.run_bind, hns]
  exact hts

theorem forM {α : Type} {f : α → Draw Unit} (h : ∀ a, Lays (f a)) (as : List α) :
    Lays (as.forM f) := by
  induction as with
  | nil => exact nil
  | cons a as ih => exact (h a).andThen ih

/-- The two faces of a quad, of which the upper one is set last. -/
def ofQuad (quad : TextureQuad) (i x y : Nat) : Nat → Nat → Option Face := fun j k =>
  if j = i then
    if k = y then some quad.upper else if k = x then some quad.lower else none
  else none

theorem laid_set {i x y : Nat} {q : Plane} {quad : TextureQuad} (hi : qs[i]? = some q)
    (hx : x < q.faceCount) (hy : y < q.faceCount) :
    Laid (ofQuad quad i x y) qs
      (qs.set i { q with faces := (q.faces.set x quad.lower).set y quad.upper }) := by
  refine ⟨.set hi ⟨rfl, rfl, rfl, rfl, by simp [Plane.faceCount]⟩, fun j k => ?_⟩
  have hlt := (List.getElem?_eq_some_iff.1 hi).1
  unfold faceOf? ofQuad
  by_cases hj : j = i
  · subst hj
    rw [if_pos rfl, List.getElem?_set_self hlt, hi]
    simp only [Option.bind_some, List.getElem?_set, List.length_set, eq_comm (b := k)]
    unfold Plane.faceCount at hx hy
    simp only [hx, hy, if_true]
    split
    · rfl
    · split <;> rfl
  · rw [if_neg hj, List.getElem?_set_ne (Ne.symm hj)]
    rfl

theorem drawQuad (quad : TextureQuad) (i : Nat) (n : Int) : Lays (drawQuad quad i n) := by
  intro ps rs h
  cases hi : ps[i]? with
  | none =>
      refine ⟨fun _ _ => none, fun qs hqs => ⟨qs, run_drawQuad_of_none quad ?_ n, .none qs⟩⟩
      rw [List.getElem?_eq_none_iff] at hi ⊢
      rwa [← hqs.length_eq]
  | some p =>
      by_cases hfit : (p.faceCount : Int) ≤ 2 * n + 1
      · refine ⟨fun _ _ => none, fun qs hqs => ⟨qs, ?_, .none qs⟩⟩
        obtain ⟨q, hq, hpq⟩ := Attempt.exists_getElem?_of_forall₂ hqs hi
        rw [run_drawQuad_of_plane quad hq, hpq.faceCount, if_pos hfit]
      · obtain ⟨x, y, hx, hy, -⟩ := (run_drawQuad_eq_ok_iff quad hi hfit).1 h
        refine ⟨ofQuad quad i x y, fun qs hqs => ?_⟩
        obtain ⟨q, hq, hpq⟩ := Attempt.exists_getElem?_of_forall₂ hqs hi
        rw [← hpq.faceCount] at hx hy hfit
        exact ⟨_, (run_drawQuad_eq_ok_iff quad hq hfit).2 ⟨x, y, hx, hy, rfl⟩,
          laid_set hq (Plane.lt_of_position? hx) (Plane.lt_of_position? hy)⟩

theorem draw (a : Animator) : Lays a.draw := by
  unfold Animator.draw
  cases a.currentQuad? with
  | none => exact nil
  | some quad => exact forM (fun i => forM (drawQuad quad i) a.quads) a.planes

end Lays

end Animator

namespace Entity

open Animator

/-- Animators that all go well have drawn one after the other. -/
theorem runAnimators_eq_ok_iff {dt : Float} {as bs : List Animator} {ps rs : List Plane} :
    runAnimators dt as ps = (bs, rs, .ok ()) ↔
      bs = as.map (·.advance dt) ∧
        ((as.map (·.advance dt)).forM Animator.draw).run.run ps = (.ok (), rs) := by
  induction as generalizing bs ps with
  | nil =>
      change (_, _, _) = _ ↔ _ ∧ (Except.ok (), ps) = (Except.ok (), rs)
      simp [eq_comm]
  | cons a as ih =>
      have hforM : (((a :: as).map (·.advance dt)).forM Animator.draw).run.run ps =
          ((a.advance dt).draw >>= fun _ =>
            (as.map (·.advance dt)).forM Animator.draw).run.run ps := rfl
      rw [hforM, ExceptT.run_bind, StateT.run_bind, runAnimators, List.map_cons]
      unfold update
      dsimp only
      rcases (a.advance dt).draw.run.run ps with ⟨_ | _, ms⟩
      · refine iff_of_false ?_ ?_
        · rintro ⟨⟩
        · rintro ⟨-, h⟩
          cases h
      · dsimp only
        constructor
        · intro h
          rcases hrest : runAnimators dt as ms with ⟨cs, ts, result⟩
          rw [hrest] at h
          cases h
          obtain ⟨rfl, hrun⟩ := ih.1 hrest
          exact ⟨rfl, hrun⟩
        · rintro ⟨rfl, hrun⟩
          rw [ih.2 ⟨rfl, hrun⟩]

theorem likewise_of_runAnimators {dt : Float} {as bs : List Animator} {ps rs : List Plane}
    (h : runAnimators dt as ps = (bs, rs, .ok ())) : Likewise ps rs := by
  obtain ⟨-, hrun⟩ := runAnimators_eq_ok_iff.1 h
  obtain ⟨o, hlaid, -⟩ := (Lays.forM Lays.draw (as.map (·.advance dt))).laid hrun
  exact hlaid.likewise

/-- Animators that have been drawn at a moment may be drawn again, which changes nothing. -/
theorem runAnimators_again {as bs : List Animator} {ps rs : List Plane}
    (h : runAnimators 0 as ps = (bs, rs, .ok ())) : runAnimators 0 bs rs = (bs, rs, .ok ()) := by
  obtain ⟨rfl, hrun⟩ := runAnimators_eq_ok_iff.1 h
  obtain ⟨o, hlaid, ho⟩ := (Lays.forM Lays.draw (as.map (·.advance 0))).laid hrun
  obtain ⟨ts, hts, hagain⟩ := ho rs hlaid.likewise
  rw [hlaid.again hagain] at hts
  have hsame : (as.map (·.advance 0)).map (·.advance 0) = as.map (·.advance 0) := by
    simp only [List.map_map, Function.comp_def, advance, Binary64.add_zero_add_zero]
  exact runAnimators_eq_ok_iff.2 ⟨hsame.symm, hsame.symm ▸ hts⟩

end Entity

end Stagecraft
