import Mathlib.Data.List.Forall2
import Stagecraft.Entity.Basic

/-!
# Drawing on one plane

An entity has at most one plane, and all of its animators draw there. Drawing changes corners of
faces and nothing else about a plane, so that what one animator has drawn does not matter to the
next: every quad is either taken by the plane, or refused, from the first drawing to the last.
-/

namespace Stagecraft

namespace Timeline

variable {R : Type} [Sub R] [LT R] [DecidableLT R]

theorem lt_length_of_locate? {position : R} {t : Timeline R} {k : Nat}
    (h : locate? position t = some k) : k < t.length := by
  induction t generalizing position k with
  | nil => cases h
  | cons d t ih =>
      have hlater {later : R} (hk : (locate? later t).map (· + 1) = some k) :
          k < (d :: t).length := by
        obtain ⟨j, hj, rfl⟩ := Option.map_eq_some_iff.1 hk
        exact Nat.succ_lt_succ (ih hj)
      cases d with
      | none => exact hlater h
      | some d =>
          unfold locate? at h
          split at h
          · cases h
            exact Nat.succ_pos _
          · exact hlater h

/-- A timeline with frames stands at one of them at any time. -/
theorem indexAt_lt_length [Zero R] [Add R] [LE R] [DecidableLE R] [FloorMod R] {t : Timeline R}
    (h : t ≠ []) (time : R) : t.indexAt time < t.length := by
  have hlen : 0 < t.length := List.length_pos_iff.2 h
  unfold indexAt
  rw [if_neg (by simpa using h)]
  split
  · exact hlen
  · cases hk : locate? (FloorMod.modulo time t.duration) t with
    | none => exact Nat.sub_one_lt (Nat.ne_of_gt hlen)
    | some k => exact lt_length_of_locate? hk

end Timeline

namespace Animation

theorem quad?_indexAt_isSome_iff (a : Animation) (time : Float) :
    (a.quad? (a.indexAt time)).isSome ↔ a.frames ≠ [] := by
  have hcast : ¬ ((a.indexAt time : Nat) : Int) < 0 := by omega
  simp only [quad?, if_neg hcast, Int.toNat_natCast, Option.isSome_map]
  constructor
  · intro h hnil
    simp [hnil] at h
  · intro h
    have hne : a.timeline ≠ [] := fun hnil => h (List.map_eq_nil_iff.1 hnil)
    have hlt : a.indexAt time < a.timeline.length := Timeline.indexAt_lt_length hne time
    simpa [timeline] using hlt

end Animation

namespace Plane

/-- The plane takes a drawing on a quad, be it that the quad is not there. A negative quad that
counts beyond the first face is not taken. -/
def Takes (p : Plane) (quad : Int) : Prop := -(p.faceCount : Int) ≤ 2 * quad

instance (p : Plane) (quad : Int) : Decidable (p.Takes quad) :=
  inferInstanceAs (Decidable (_ ≤ _))

theorem takes_iff {p : Plane} {quad : Int} :
    p.Takes quad ↔ -(p.faceCount : Int) ≤ 2 * quad := Iff.rfl

/-- The same plane, up to what is drawn on it. -/
structure Redrawn (p r : Plane) : Prop where
  width : r.width = p.width
  height : r.height = p.height
  across : r.across = p.across
  down : r.down = p.down
  faceCount : r.faceCount = p.faceCount

namespace Redrawn

theorem refl (p : Plane) : Redrawn p p := ⟨rfl, rfl, rfl, rfl, rfl⟩

theorem trans {p q r : Plane} (hpq : Redrawn p q) (hqr : Redrawn q r) : Redrawn p r :=
  ⟨hqr.width.trans hpq.width, hqr.height.trans hpq.height, hqr.across.trans hpq.across,
    hqr.down.trans hpq.down, hqr.faceCount.trans hpq.faceCount⟩

theorem takes_iff {p r : Plane} (h : Redrawn p r) (quad : Int) : r.Takes quad ↔ p.Takes quad := by
  unfold Takes
  rw [h.faceCount]

theorem of_setFace? {p r : Plane} {index : Int} {face : Face}
    (h : p.setFace? index face = some r) : Redrawn p r := by
  have hcount := faceCount_setFace? h
  simp only [setFace?, Option.map_eq_some_iff] at h
  obtain ⟨i, -, rfl⟩ := h
  exact ⟨rfl, rfl, rfl, rfl, hcount⟩

end Redrawn

theorem setFace?_eq_none_iff {p : Plane} {index : Int} {face : Face} :
    p.setFace? index face = none ↔ index < -(p.faceCount : Int) ∨ (p.faceCount : Int) ≤ index := by
  simp only [setFace?, Option.map_eq_none_iff, position?]
  split <;> split <;> simp_all <;> omega

end Plane

namespace Animator

/-- What drawing on quads of a plane comes to. -/
def outcome (p : Plane) (quads : List Int) : Except Fault Unit :=
  if ∀ q ∈ quads, p.Takes q then .ok () else .error .indexRange

theorem outcome_nil (p : Plane) : outcome p [] = .ok () := by simp [outcome]

theorem outcome_of_redrawn {p r : Plane} (h : p.Redrawn r) (quads : List Int) :
    outcome r quads = outcome p quads := by
  simp only [outcome, h.takes_iff]

theorem outcome_append (p : Plane) (quads more : List Int) :
    outcome p (quads ++ more) = outcome p quads *> outcome p more := by
  unfold outcome
  by_cases hq : ∀ q ∈ quads, p.Takes q
  · rw [if_pos hq]
    by_cases hm : ∀ q ∈ more, p.Takes q
    · rw [if_pos hm, if_pos fun q h => (List.mem_append.1 h).elim (hq q) (hm q)]
      rfl
    · rw [if_neg hm, if_neg fun h => hm fun q hq => h q (List.mem_append_right quads hq)]
      rfl
  · rw [if_neg hq, if_neg fun h => hq fun q hq => h q (List.mem_append_left more hq)]
    rfl

theorem run_get_bind (f : List Plane → Draw Unit) (ps : List Plane) :
    (get >>= f).run.run ps = (f ps).run.run ps := rfl

theorem run_set_bind (rs : List Plane) (f : PUnit → Draw Unit) (ps : List Plane) :
    (set rs >>= f).run.run ps = (f ⟨⟩).run.run rs := rfl

theorem run_drawQuad_of_none (quad : TextureQuad) {ps : List Plane} {i : Nat} (hi : ps[i]? = none)
    (q : Int) : (drawQuad quad i q).run.run ps = (.ok (), ps) := by
  rw [drawQuad, run_get_bind, hi]
  rfl

theorem run_drawQuad_of_plane (quad : TextureQuad) {ps : List Plane} {i : Nat} {p : Plane}
    (hi : ps[i]? = some p) (q : Int) :
    (drawQuad quad i q).run.run ps =
      if (p.faceCount : Int) ≤ 2 * q + 1 then (.ok (), ps)
      else
        match p.setFace? (2 * q) quad.lower with
        | none => (.error .indexRange, ps)
        | some r =>
          match r.setFace? (2 * q + 1) quad.upper with
          | none => (.error .indexRange, ps.set i r)
          | some t => (.ok (), ps.set i t) := by
  rw [drawQuad, run_get_bind, hi]
  dsimp only
  split
  · rfl
  · cases p.setFace? (2 * q) quad.lower with
    | none => rfl
    | some r =>
        dsimp only
        rw [run_set_bind]
        cases r.setFace? (2 * q + 1) quad.upper <;> rfl

theorem run_drawQuad (quad : TextureQuad) (p : Plane) (q : Int) :
    (drawQuad quad 0 q).run.run [p] =
      if (p.faceCount : Int) ≤ 2 * q + 1 then (.ok (), [p])
      else
        match p.setFace? (2 * q) quad.lower with
        | none => (.error .indexRange, [p])
        | some r =>
          match r.setFace? (2 * q + 1) quad.upper with
          | none => (.error .indexRange, [r])
          | some t => (.ok (), [t]) :=
  run_drawQuad_of_plane quad rfl q

/-- Work that draws on a single plane and comes to what the plane takes of some quads. -/
def DrawsAs (x : Draw Unit) (quads : List Int) : Prop :=
  ∀ p, ∃ r, p.Redrawn r ∧ x.run.run [p] = (outcome p quads, [r])

theorem drawsAs_drawQuad (quad : TextureQuad) (q : Int) :
    DrawsAs (drawQuad quad 0 q) [q] := by
  intro p
  have hout : outcome p [q] = if p.Takes q then .ok () else .error .indexRange := by
    simp [outcome]
  rw [run_drawQuad, hout]
  by_cases hfit : (p.faceCount : Int) ≤ 2 * q + 1
  · rw [if_pos hfit, if_pos (Plane.takes_iff.2 (by omega))]
    exact ⟨p, .refl p, rfl⟩
  · rw [if_neg hfit]
    cases hl : p.setFace? (2 * q) quad.lower with
    | none =>
        rw [Plane.setFace?_eq_none_iff] at hl
        rw [if_neg (by rw [Plane.takes_iff]; omega)]
        exact ⟨p, .refl p, rfl⟩
    | some r =>
        have hr : p.Redrawn r := .of_setFace? hl
        have hq : p.setFace? (2 * q) quad.lower ≠ none := by simp [hl]
        rw [Ne, Plane.setFace?_eq_none_iff] at hq
        rw [if_pos (Plane.takes_iff.2 (by omega))]
        dsimp only
        cases hu : r.setFace? (2 * q + 1) quad.upper with
        | none =>
            -- Where the lower face is found, the upper one is: the guard has seen to it above, and
            -- counted from the end it is the nearer one.
            rw [Plane.setFace?_eq_none_iff, hr.faceCount] at hu
            omega
        | some t => exact ⟨t, hr.trans (.of_setFace? hu), rfl⟩

theorem drawsAs_nil : DrawsAs (pure ()) [] := by
  intro p
  rw [outcome_nil]
  exact ⟨p, .refl p, rfl⟩

theorem DrawsAs.andThen {x y : Draw Unit} {quads more : List Int} (hx : DrawsAs x quads)
    (hy : DrawsAs y more) : DrawsAs (x >>= fun _ => y) (quads ++ more) := by
  intro p
  obtain ⟨r, hr, hxr⟩ := hx p
  obtain ⟨t, ht, hyt⟩ := hy r
  rw [outcome_of_redrawn hr] at hyt
  rw [ExceptT.run_bind, StateT.run_bind, hxr, outcome_append]
  cases outcome p quads with
  | error f => exact ⟨r, hr, rfl⟩
  | ok _ => exact ⟨t, hr.trans ht, hyt⟩

theorem drawsAs_forM (quad : TextureQuad) (quads : List Int) :
    DrawsAs (quads.forM (drawQuad quad 0)) quads := by
  induction quads with
  | nil => exact drawsAs_nil
  | cons q quads ih => exact (drawsAs_drawQuad quad q).andThen ih

/-- Is there something to draw, an animation with frames? -/
def shows (a : Animator) : Bool :=
  (a.animation.map fun animation => !animation.frames.isEmpty).getD false

/-- The quads that an animator draws on, whenever it draws. -/
def drawnQuads (a : Animator) : List Int := if a.shows then a.quads else []

theorem isSome_currentQuad? (a : Animator) : a.currentQuad?.isSome = a.shows := by
  unfold currentQuad? shows
  cases ha : a.animation with
  | none => rfl
  | some animation =>
      rw [Option.bind_some, currentIndex_of_some ha, Bool.eq_iff_iff,
        Animation.quad?_indexAt_isSome_iff]
      simp

theorem drawsAs_draw {a : Animator} (ha : a.planes = [0]) : DrawsAs a.draw a.drawnQuads := by
  have hshows := isSome_currentQuad? a
  unfold draw drawnQuads
  rw [← hshows]
  cases a.currentQuad? with
  | none => exact drawsAs_nil
  | some quad =>
      rw [ha]
      have h := (drawsAs_forM quad a.quads).andThen drawsAs_nil
      rw [List.append_nil] at h
      exact h

/-- The same animator, maybe at another time. -/
structure Alike (a b : Animator) : Prop where
  planes : b.planes = a.planes
  drawnQuads : b.drawnQuads = a.drawnQuads

theorem Alike.refl (a : Animator) : Alike a a := ⟨rfl, rfl⟩

theorem alike_advance (a : Animator) (dt : Float) : Alike a (a.advance dt) := ⟨rfl, rfl⟩

end Animator

namespace Entity

/-- Animators of one plane are refused together or draw one after the other. -/
theorem runAnimators_single (dt : Float) (as : List Animator) (has : ∀ a ∈ as, a.planes = [0])
    (p : Plane) :
    ∃ bs r, p.Redrawn r ∧ List.Forall₂ Animator.Alike as bs ∧ runAnimators dt as [p] =
      (bs, [r], Animator.outcome p (as.flatMap Animator.drawnQuads)) := by
  induction as generalizing p with
  | nil => exact ⟨[], p, .refl p, .nil, rfl⟩
  | cons a as ih =>
      obtain ⟨r, hr, ha⟩ := Animator.drawsAs_draw (a := a.advance dt) (has a List.mem_cons_self) p
      obtain ⟨bs, t, ht, hbs, hrest⟩ := ih (fun b hb => has b (List.mem_cons_of_mem a hb)) r
      have hupdate : a.update dt [p] =
          (a.advance dt, [r], Animator.outcome p a.drawnQuads) := by
        unfold Animator.update
        dsimp only
        rw [ha]
        rfl
      rw [Animator.outcome_of_redrawn hr] at hrest
      rw [List.flatMap_cons, Animator.outcome_append, runAnimators, hupdate]
      dsimp only
      cases Animator.outcome p a.drawnQuads with
      | error f =>
          have has : List.Forall₂ Animator.Alike as as := List.forall₂_same.2 fun a _ => .refl a
          exact ⟨a.advance dt :: as, r, hr, .cons (a.alike_advance dt) has, rfl⟩
      | ok _ =>
          dsimp only
          rw [hrest]
          exact ⟨a.advance dt :: bs, t, hr.trans ht, .cons (a.alike_advance dt) hbs, rfl⟩

end Entity

end Stagecraft
