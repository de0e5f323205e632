import Stagecraft.Proofs.Building
import Stagecraft.Proofs.Painting

/-!
# Layers of frames

All animators of an entity draw on its one plane, in their order, each time they are updated. So a
face shows the current frame of the last animator that draws on it. An update says so again whatever
was shown before it, as the animators before and after it draw on the same quads: what is not drawn
on by then is never drawn on (`Plane.Layered.again`).
-/

namespace Stagecraft

namespace Animator

/-- An animator draws on a quad of a plane, as it has something to show and names the quad. -/
def DrawsOn (p : Plane) (quad : Nat) (a : Animator) : Prop :=
  a.shows = true ∧ ∃ n ∈ a.quads, p.Means n quad

instance (p : Plane) (quad : Nat) : DecidablePred (DrawsOn p quad) :=
  fun _ => inferInstanceAs (Decidable (_ ∧ _))

/-- The last animator that draws on a quad of a plane. -/
def top? (p : Plane) (as : List Animator) (quad : Nat) : Option Animator :=
  (as.filter (DrawsOn p quad)).getLast?

/-- What animators show on a face of a plane. -/
def shown? (p : Plane) (as : List Animator) (k : Nat) : Option Face :=
  (top? p as (k / 2)).bind fun a => a.currentQuad?.map (·.face k)

variable {p r : Plane} {as bs : List Animator} {a : Animator} {quad k : Nat}

theorem exists_quad_of_top? (h : top? p as quad = some a) :
    a ∈ as ∧ a.DrawsOn p quad ∧ ∃ q, a.currentQuad? = some q := by
  obtain ⟨hmem, hdraws⟩ := List.mem_filter.1 (List.mem_of_getLast? h)
  have hdraws : a.DrawsOn p quad := by simpa using hdraws
  refine ⟨hmem, hdraws, Option.isSome_iff_exists.1 ?_⟩
  rw [isSome_currentQuad?]
  exact hdraws.1

theorem top?_append (p : Plane) (as bs : List Animator) (quad : Nat) :
    top? p (as ++ bs) quad = (top? p bs quad).or (top? p as quad) := by
  unfold top?
  rw [List.filter_append, List.getLast?_append]

theorem top?_eq_none_iff : top? p as quad = none ↔ ∀ a ∈ as, ¬ a.DrawsOn p quad := by
  simp [top?]

/-- Animators that keep drawing on the same quads have the same one as the last of them. -/
theorem top?_map (f : Animator → Animator) (hf : ∀ a, (f a).DrawsOn p quad ↔ a.DrawsOn p quad)
    (as : List Animator) : top? p (as.map f) quad = (top? p as quad).map f := by
  unfold top?
  rw [List.filter_map, List.getLast?_map]
  congr 2
  exact List.filter_congr fun a _ => by simp [hf]

theorem shown?_append (p : Plane) (as bs : List Animator) (k : Nat) :
    shown? p (as ++ bs) k = (shown? p bs k).or (shown? p as k) := by
  unfold shown?
  rw [top?_append]
  cases h : top? p bs (k / 2) with
  | none => rfl
  | some b =>
      obtain ⟨-, -, q, hq⟩ := exists_quad_of_top? h
      simp [hq]

theorem shown?_eq_none_iff : shown? p as k = none ↔ top? p as (k / 2) = none := by
  unfold shown?
  cases h : top? p as (k / 2) with
  | none => simp
  | some a =>
      obtain ⟨-, -, q, hq⟩ := exists_quad_of_top? h
      simp [hq]

theorem drawsOn_of_redrawn (h : p.Redrawn r) : a.DrawsOn r quad ↔ a.DrawsOn p quad := by
  simp only [DrawsOn, h.means_iff]

theorem shown?_of_redrawn (h : p.Redrawn r) (as : List Animator) (k : Nat) :
    shown? r as k = shown? p as k := by
  simp only [shown?, top?, drawsOn_of_redrawn h]

theorem shown?_singleton {q : TextureQuad} (hquad : a.currentQuad? = some q) :
    shown? p [a] k =
      if ∃ n ∈ a.quads, p.Means n (k / 2) then some (q.face k) else none := by
  have hshows : a.shows = true := by
    rw [← isSome_currentQuad?, hquad]
    rfl
  unfold shown? top?
  by_cases h : ∃ n ∈ a.quads, p.Means n (k / 2)
  · have hdraws : a.DrawsOn p (k / 2) := ⟨hshows, h⟩
    rw [if_pos h, List.filter_cons_of_pos (by simpa using hdraws)]
    simp [hquad]
  · have hdraws : ¬ a.DrawsOn p (k / 2) := fun hd => h hd.2
    rw [if_neg h, List.filter_cons_of_neg (by simpa using hdraws)]
    rfl

end Animator

namespace Plane

/-- A plane after animators have drawn on another one, from the first to the last. -/
structure Layered (as : List Animator) (p r : Plane) : Prop where
  redrawn : p.Redrawn r
  face : ∀ k, r.faces[k]? = (Animator.shown? p as k).or p.faces[k]?

namespace Layered

variable {as bs : List Animator} {p r t : Plane}

theorem nil (p : Plane) : Layered [] p p := ⟨.refl p, fun _ => rfl⟩

theorem append (h : Layered as p r) (h' : Layered bs r t) : Layered (as ++ bs) p t := by
  refine ⟨h.redrawn.trans h'.redrawn, fun k => ?_⟩
  rw [h'.face, h.face, Animator.shown?_of_redrawn h.redrawn, Animator.shown?_append,
    Option.or_assoc]

/-- Drawing again on what has been drawn on shows the same as drawing for the first time. -/
theorem again (h : Layered as p r) (h' : Layered bs r t)
    (hsame : ∀ k, Animator.shown? p bs k = none → Animator.shown? p as k = none) :
    Layered bs p t := by
  refine ⟨h.redrawn.trans h'.redrawn, fun k => ?_⟩
  rw [h'.face, h.face, Animator.shown?_of_redrawn h.redrawn]
  cases hk : Animator.shown? p bs k with
  | none =>
      rw [hsame k hk]
      rfl
  | some face => rfl

theorem faces_eq (h : Layered as p r) (h' : Layered bs p t)
    (hsame : ∀ k, Animator.shown? p as k = Animator.shown? p bs k) : r.faces = t.faces := by
  refine List.ext_getElem? fun k => ?_
  rw [h.face, h'.face, hsame]

/-- What animators make of a plane is all there is to it. -/
theorem unique (h : Layered as p r) (h' : Layered as p t) : r = t := by
  have hfaces := h.faces_eq h' fun _ => rfl
  obtain ⟨⟨hwidth, hheight, hacross, hdown, -⟩, -⟩ := h
  obtain ⟨⟨hwidth', hheight', hacross', hdown', -⟩, -⟩ := h'
  cases r
  cases t
  rw [Plane.mk.injEq]
  exact ⟨hwidth.trans hwidth'.symm, hheight.trans hheight'.symm, hacross.trans hacross'.symm,
    hdown.trans hdown'.symm, hfaces⟩

end Layered

end Plane

namespace Animator

/-- An animator draws on the first plane only, which takes all of its quads. -/
structure Fits (p : Plane) (a : Animator) : Prop where
  planes : a.planes = [0]
  takes : ∀ n ∈ a.drawnQuads, p.Takes n

variable {p r : Plane} {a : Animator}

theorem Fits.advance (h : a.Fits p) (dt : Float) : (a.advance dt).Fits p := ⟨h.planes, h.takes⟩

theorem Fits.redrawn (h : a.Fits p) (hr : p.Redrawn r) : a.Fits r :=
  ⟨h.planes, fun n hn => (hr.takes_iff n).2 (h.takes n hn)⟩

theorem layered_of_draw (hp : p.Segmented) (h : a.Fits p) :
    ∃ r, p.Layered [a] r ∧ a.draw.run.run [p] = (.ok (), [r]) := by
  cases hquad : a.currentQuad? with
  | none =>
      have hshown (k : Nat) : shown? p [a] k = none := by
        rw [shown?_eq_none_iff, top?_eq_none_iff]
        intro b hb hdraws
        rw [List.mem_singleton.1 hb] at hdraws
        have hshows := hdraws.1
        rw [← isSome_currentQuad?, hquad] at hshows
        cases hshows
      refine ⟨p, ⟨.refl p, fun k => by rw [hshown]; rfl⟩, ?_⟩
      unfold draw
      rw [hquad]
      rfl
  | some q =>
      have hdrawn : a.drawnQuads = a.quads := by
        rw [drawnQuads, ← isSome_currentQuad?, hquad]
        rfl
      have htargets : a.targets = a.quads.map (0, ·) := by simp [targets, h.planes]
      have htaken : Taken a.targets [p] := by
        rintro ⟨i, n⟩ ht r hr
        rw [htargets] at ht
        obtain ⟨m, hm, hmn⟩ := List.mem_map.1 ht
        cases hmn
        cases hr
        exact h.takes n (hdrawn ▸ hm)
      have hsegmented : ∀ r ∈ [p], r.Segmented := by
        intro r hr
        rwa [List.mem_singleton.1 hr]
      obtain ⟨rs, hrun, hrs⟩ := (paints_draw hquad [p] hsegmented).1 htaken
      obtain ⟨r, -, hone⟩ := drawsAs_draw h.planes p
      cases (Prod.ext_iff.1 (hrun.symm.trans hone)).2
      have hover : Plane.Overdrawn q (a.targets.on 0) p r := by
        cases hrs 0 with
        | some hpr => exact hpr
      refine ⟨r, ⟨hover.redrawn, fun k => ?_⟩, hrun⟩
      have hon (n : Int) : n ∈ a.targets.on 0 ↔ n ∈ a.quads := by
        simp [Targets.mem_on_iff, mem_targets_iff, h.planes]
      rw [hover.face, shown?_singleton hquad]
      simp only [hon]
      split <;> rfl

theorem layered_of_update (hp : p.Segmented) (h : a.Fits p) (dt : Float) :
    ∃ r, p.Layered [a.advance dt] r ∧ a.update dt [p] = (a.advance dt, [r], .ok ()) := by
  obtain ⟨r, hr, hrun⟩ := layered_of_draw hp (h.advance dt)
  refine ⟨r, hr, ?_⟩
  rw [update_eq, hrun]

/-- An animator after updates. -/
def after (a : Animator) (dts : List Float) : Animator :=
  { a with time := dts.foldl (· + ·) a.time }

theorem after_nil (a : Animator) : a.after [] = a := rfl

end Animator

namespace Entity

theorem layered_of_runAnimators (dt : Float) {as : List Animator} {p : Plane} (hp : p.Segmented)
    (has : ∀ a ∈ as, a.Fits p) :
    ∃ r, p.Layered (as.map (·.advance dt)) r ∧
      runAnimators dt as [p] = (as.map (·.advance dt), [r], .ok ()) := by
  induction as generalizing p with
  | nil => exact ⟨p, .nil p, rfl⟩
  | cons a as ih =>
      obtain ⟨r, hr, hupdate⟩ := Animator.layered_of_update hp (has a List.mem_cons_self) dt
      obtain ⟨t, ht, hrest⟩ := ih (hr.redrawn.segmented hp)
        fun b hb => (has b (List.mem_cons_of_mem a hb)).redrawn hr.redrawn
      refine ⟨t, hr.append ht, ?_⟩
      rw [runAnimators, hupdate]
      dsimp only
      rw [hrest]
      rfl

/-- An entity after an update of its animators, unless that fails. -/
def updated (e : Entity) (dt : Float) : Except Fault Entity :=
  (e.updateAnimators dt).2.map fun _ => (e.updateAnimators dt).1

/-- Updates of the animators of an entity, one after the other. -/
def updateAll (e : Entity) (dts : List Float) : Except Fault Entity := dts.foldlM updated e

/-- An entity with some animators, which have drawn on a plane. -/
structure Displays (p : Plane) (as : List Animator) (e : Entity) : Prop where
  animators : e.animators = as
  model : ∃ m, e.model = some m ∧ p.Layered as m.plane

variable {e : Entity} {p : Plane} {as : List Animator}

theorem updateAnimators_of_model {m : Model} (hm : e.model = some m) (hp : m.plane.Segmented)
    (has : ∀ a ∈ e.animators, a.Fits m.plane) (dt : Float) :
    ∃ r f, m.plane.Layered (e.animators.map (·.advance dt)) r ∧
      e.updateAnimators dt = (f, .ok ()) ∧ f.animators = e.animators.map (·.advance dt) ∧
      f.model = some { m with plane := r } := by
  obtain ⟨r, hr, hrun⟩ := layered_of_runAnimators dt hp has
  refine ⟨r, { e with
    animators := e.animators.map (·.advance dt), model := some { m with plane := r } }, hr, ?_, rfl,
    rfl⟩
  simp only [updateAnimators, hm, Option.map_some, Option.toList_some, hrun, List.head?_cons,
    Option.getD_some]

/-- One update: every face shows what the last animator on it shows by then. -/
theorem Displays.update (h : e.Displays p as) (hp : p.Segmented) (has : ∀ a ∈ as, a.Fits p)
    (dt : Float) :
    ∃ f, e.updateAnimators dt = (f, .ok ()) ∧ f.Displays p (as.map (·.advance dt)) := by
  obtain ⟨rfl, m, hm, hlayered⟩ := h
  obtain ⟨r, f, hr, hrun, hanimators, hmodel⟩ := updateAnimators_of_model hm
    (hlayered.redrawn.segmented hp) (fun a ha => (has a ha).redrawn hlayered.redrawn) dt
  refine ⟨f, hrun, hanimators, { m with plane := r }, hmodel, hlayered.again hr fun k hk => ?_⟩
  rw [Animator.shown?_eq_none_iff] at hk ⊢
  rwa [Animator.top?_map (·.advance dt) fun _ => Iff.rfl, Option.map_eq_none_iff] at hk

/-- Any number of updates. -/
theorem Displays.updateAll (h : e.Displays p as) (hp : p.Segmented) (has : ∀ a ∈ as, a.Fits p)
    (dts : List Float) :
    ∃ f, e.updateAll dts = .ok f ∧ f.Displays p (as.map (·.after dts)) := by
  induction dts generalizing e as with
  | nil =>
      refine ⟨e, rfl, ?_⟩
      simpa only [Animator.after_nil, List.map_id'] using h
  | cons dt dts ih =>
      obtain ⟨f, hf, hdisplays⟩ := h.update hp has dt
      have hfits : ∀ a ∈ as.map (·.advance dt), a.Fits p := by
        intro a ha
        obtain ⟨b, hb, rfl⟩ := List.mem_map.1 ha
        exact (has b hb).advance dt
      obtain ⟨g, hg, hrest⟩ := ih hdisplays hfits
      rw [List.map_map] at hrest
      refine ⟨g, Attempt.bind_eq_ok_iff.2 ⟨f, ?_, hg⟩, hrest⟩
      rw [updated, hf]
      rfl

end Entity

namespace Blueprint

variable {b : Blueprint} {e : Entity}

theorem planes_of_mem_instanceAnimators {a : Animator} (h : a ∈ b.instanceAnimators) :
    a.planes = [0] := by
  unfold instanceAnimators at h
  split at h
  · cases h
  · obtain ⟨c, -, rfl⟩ := List.mem_map.1 h
    rfl

theorem advance_zero_of_mem_instanceAnimators {a : Animator} (h : a ∈ b.instanceAnimators) :
    a.advance 0 = a := by
  unfold instanceAnimators at h
  split at h
  · cases h
  · obtain ⟨c, -, rfl⟩ := List.mem_map.1 h
    have hzero : (0 : Float) + 0 = 0 := by decide
    simp only [Animator.advance, Animator.attach, Animator.fresh, hzero]

theorem map_advance_zero (b : Blueprint) :
    b.instanceAnimators.map (·.advance 0) = b.instanceAnimators := by
  rw [List.map_congr_left fun a ha => advance_zero_of_mem_instanceAnimators ha, List.map_id']

variable [Application]

/-- What is built has been drawn once. -/
theorem drawn_of_build (hb : b.Standard) (h : b.build = .ok e) :
    ∃ f : Entity, f.model = b.model? ∧ f.animators = b.instanceAnimators ∧
      f.updateAnimators 0 = (e, .ok ()) := by
  obtain ⟨base, f, hbase, hf, hdrawn⟩ := stages_of_build h
  obtain ⟨ts, -, hatt⟩ := attached_of_attachAll hb.traits hf
  have hblank := hb.base base hbase
  refine ⟨b.script f, ?_, ?_, hdrawn⟩
  · rw [hatt.rest]
    exact b.modelOn_of_blank hblank
  · rw [hatt.rest]
    exact congrArg (· ++ b.instanceAnimators) (b.keptAnimators_of_blank hblank)

/-- What is built shows the frames that its animators begin with, and they all fit on its plane. -/
theorem displays_of_build {p : Plane} (hp : b.planes.head? = some p) (hsegmented : p.Segmented)
    (hb : b.Standard) (h : b.build = .ok e) :
    e.Displays p b.instanceAnimators ∧ ∀ a ∈ b.instanceAnimators, a.Fits p := by
  obtain ⟨f, hmodel, hanimators, hrun⟩ := drawn_of_build hb h
  have hm : f.model = some { plane := p, picture := b.defaultPicture } := by
    rw [hmodel, model?, hp]
    rfl
  have hfits : ∀ a ∈ b.instanceAnimators, a.Fits p := by
    -- As the drawing went through, no quad has been refused.
    obtain ⟨as, r, -, -, hall⟩ := Entity.runAnimators_single 0 b.instanceAnimators
      (fun a => planes_of_mem_instanceAnimators) p
    have hresult : (f.updateAnimators 0).2 =
        Animator.outcome p (b.instanceAnimators.flatMap Animator.drawnQuads) := by
      simp only [Entity.updateAnimators, hm, hanimators, Option.map_some, Option.toList_some, hall]
    rw [hrun, Animator.outcome] at hresult
    split at hresult
    · rename_i htakes
      exact fun a ha => ⟨planes_of_mem_instanceAnimators ha,
        fun n hn => htakes n (List.mem_flatMap.2 ⟨a, ha, hn⟩)⟩
    · cases hresult
  obtain ⟨r, g, hr, hg, hganimators, hgmodel⟩ :=
    Entity.updateAnimators_of_model hm hsegmented (hanimators ▸ hfits) 0
  cases (Prod.ext_iff.1 (hrun.symm.trans hg)).1
  rw [hanimators, map_advance_zero] at hr hganimators
  exact ⟨⟨hganimators, _, hgmodel, hr⟩, hfits⟩

end Blueprint

end Stagecraft
