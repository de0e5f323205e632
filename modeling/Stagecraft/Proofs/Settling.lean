import Stagecraft.Proofs.Constructors
import Stagecraft.Stage.World

/-!
# Settling

In the end a world is settled: no time passes, but every trait that is switched on is run and every
animator draws. An entity that has been built draws as it did then, so only its traits can fail, and
of these only the ones that count the time or turn, when what they would add does not fit.
-/

namespace Stagecraft

namespace Value

/-- Two values can be added: both are texts or both count as numbers. -/
def Fits (a b : Value) : Prop :=
  (∃ s t, a = text s ∧ b = text t) ∨ (∃ x y, a.number? = some x ∧ b.number? = some y)

theorem add_eq_error {a b : Value} {f : Fault} (h : add a b = .error f) :
    f = .typeMismatch ∧ ¬ Fits a b := by
  unfold add at h
  split at h
  · cases h
  · rename_i htexts
    split at h
    · cases h
    · rename_i hnumbers
      cases h
      refine ⟨rfl, ?_⟩
      rintro (⟨s, t, rfl, rfl⟩ | ⟨x, y, hx, hy⟩)
      · exact htexts s t rfl rfl
      · exact hnumbers x y hx hy

theorem times_none_eq_error {a : Value} {f : Fault} (h : times a .none = .error f) :
    f = .typeMismatch ∧ ∀ b, ¬ Fits b a := by
  unfold times at h
  split at h
  · cases h
  · rename_i htext
    split at h
    · cases h
    · rename_i hnumber
      cases h
      refine ⟨rfl, ?_⟩
      rintro b (⟨_, s, -, hs⟩ | ⟨_, x, -, hx⟩)
      · exact htext s hs rfl
      · exact Option.some_ne_none x (hx.symm.trans hnumber)

/-- No time at all leaves of a text a text, and of a number a number. -/
theorem Fits.times_none {a b c : Value} (hb : Fits b a) (h : times a .none = .ok c) :
    Fits b c := by
  unfold times at h
  split at h
  · rename_i s hs _
    cases h
    rcases hb with ⟨t, _, ht, -⟩ | ⟨_, x, -, hx⟩
    · exact .inl ⟨t, "", ht, rfl⟩
    · cases hx
  · rename_i htext
    split at h
    · cases h
      rcases hb with ⟨_, s, -, hs⟩ | ⟨y, _, hy, -⟩
      · exact absurd rfl (htext s hs)
      · exact .inr ⟨y, _, hy, rfl⟩
    · cases h

end Value

namespace Trait

/-- The trait cannot be run, not even for no time at all: the time it counts is no number, or the
angle and the speed of its turn are not both texts or both numbers. -/
def Stalls (t : Trait) : Prop :=
  match t.kind with
  | .builtIn .disappearing => ¬ (t.field "time").Fits (.real 0)
  | .builtIn .lifetime => ¬ (t.field "time").Fits (.real 0)
  | .builtIn .rotate => ¬ (t.field "angle").Fits (t.field "speed")
  | _ => False

theorem countTime_none_eq_error {t : Trait} {f : Fault} (h : t.countTime .none = .error f) :
    f = .typeMismatch ∧ ¬ (t.field "time").Fits (.real 0) :=
  Value.add_eq_error (Attempt.map_eq_error_iff.1 h)

theorem turn_none_eq_error {t : Trait} {f : Fault}
    (h : (do
      let turn ← Value.times (t.field "speed") .none
      return t.setField "angle" (← Value.add (t.field "angle") turn)) = .error f) :
    f = .typeMismatch ∧ ¬ (t.field "angle").Fits (t.field "speed") := by
  rcases Attempt.bind_eq_error_iff.1 h with h | ⟨turn, hturn, h⟩
  · exact (Value.times_none_eq_error h).imp_right fun hfits => hfits _
  · rcases Attempt.bind_eq_error_iff.1 h with h | ⟨_, -, h⟩
    · obtain ⟨rfl, hfits⟩ := Value.add_eq_error h
      exact ⟨rfl, fun hangle => hfits (hangle.times_none hturn)⟩
    · cases h

theorem elapse_none_eq_error {t : Trait} {f : Fault} (h : t.elapse .none = .error f) :
    f = .typeMismatch ∧ t.Stalls := by
  unfold elapse at h
  split at h
  · rename_i hkind
    unfold Stalls
    rw [hkind]
    exact countTime_none_eq_error h
  · rename_i hkind
    unfold Stalls
    rw [hkind]
    exact countTime_none_eq_error h
  · rename_i hkind
    unfold Stalls
    rw [hkind]
    exact turn_none_eq_error h
  · cases h

end Trait

/-- The traits that a definition makes are switched on and cannot be run. -/
def TraitMaker.Stalls [Application] (m : TraitMaker) : Prop :=
  ∃ t, m.make = .ok t ∧ t.isEnabled = true ∧ t.Stalls

namespace Entity

/-- The animators of an entity can draw: there are none without a model, and its plane takes every
quad that they draw on. -/
structure Drawable (e : Entity) : Prop where
  bare : e.model = none → e.animators = []
  planes : ∀ a ∈ e.animators, a.planes = [0]
  quads : ∀ m, e.model = some m → ∀ q ∈ e.animators.flatMap Animator.drawnQuads, m.plane.Takes q

/-- Whether animators can draw depends on them and the plane of the model alone. -/
theorem Drawable.congr {e f : Entity} (h : e.Drawable) (hanimators : f.animators = e.animators)
    (hplane : f.model.map (·.plane) = e.model.map (·.plane)) : f.Drawable := by
  refine ⟨fun hf => ?_, fun a ha => h.planes a (hanimators ▸ ha), fun m hm => ?_⟩
  · rw [hanimators]
    refine h.bare ?_
    rw [hf] at hplane
    exact Option.map_eq_none_iff.1 hplane.symm
  · rw [hm] at hplane
    obtain ⟨n, hn, hnm⟩ := Option.map_eq_some_iff.1 hplane.symm
    have hsame : n.plane = m.plane := hnm
    rw [hanimators, ← hsame]
    exact h.quads n hn

/-- Animators that can draw do. -/
theorem updateAnimators_of_drawable {e : Entity} (h : e.Drawable) (dt : Float) :
    (e.updateAnimators dt).2 = .ok () := by
  unfold updateAnimators
  cases hmodel : e.model with
  | none =>
      rw [h.bare hmodel]
      rfl
  | some m =>
      obtain ⟨bs, r, -, -, hrun⟩ := runAnimators_single dt e.animators h.planes m.plane
      simp only [Option.map_some, Option.toList_some, hrun]
      exact if_pos (h.quads m hmodel)

/-- If running traits fails, then one that is switched on does. -/
theorem runTraits_eq_error {ts : List Trait} {dt : Elapsed} {position : Vec3} {f : Fault}
    (h : (runTraits dt ts position).2.2 = .error f) :
    ∃ t ∈ ts, t.isEnabled = true ∧ t.elapse dt = .error f := by
  induction ts generalizing position with
  | nil => cases h
  | cons t ts ih =>
      unfold runTraits at h
      split at h
      · obtain ⟨u, hu, hrun⟩ := ih h
        exact ⟨u, List.mem_cons_of_mem t hu, hrun⟩
      · rename_i henabled
        split at h
        · rename_i g hg
          cases h
          exact ⟨t, List.mem_cons_self, by simpa using henabled, hg⟩
        · obtain ⟨u, hu, hrun⟩ := ih h
          exact ⟨u, List.mem_cons_of_mem t hu, hrun⟩

/-- Letting no time pass fails on a trait that is switched on and cannot be run. -/
theorem timeshift_none_eq_error {e : Entity} (he : e.Drawable) {f : Fault}
    (h : (e.timeshift .none).2 = .error f) :
    f = .typeMismatch ∧ ∃ t ∈ e.traits, t.isEnabled = true ∧ t.Stalls := by
  unfold timeshift at h
  rcases hrun : runTraits .none e.traits e.position with ⟨traits, position, result⟩
  rw [hrun] at h
  cases result with
  | error g =>
      cases h
      obtain ⟨t, ht, henabled, helapse⟩ := runTraits_eq_error (congrArg (·.2.2) hrun)
      obtain ⟨rfl, hstalls⟩ := Trait.elapse_none_eq_error helapse
      exact ⟨rfl, t, ht, henabled, hstalls⟩
  | ok _ =>
      have hdrawable : ({ e with traits, position } : Entity).Drawable := he.congr rfl rfl
      rw [updateAnimators_of_drawable hdrawable] at h
      cases h

/-- The animators can draw, and if a trait is switched on and cannot be run, then for a reason. -/
structure Sound (reason : Prop) (e : Entity) : Prop where
  drawable : e.Drawable
  traits : ∀ t ∈ e.traits, t.isEnabled = true → t.Stalls → reason

theorem Sound.mono {reason reason' : Prop} {e : Entity} (h : e.Sound reason)
    (himp : reason → reason') : e.Sound reason' :=
  ⟨h.drawable, fun t ht henabled hstalls => himp (h.traits t ht henabled hstalls)⟩

theorem Sound.of_same {reason : Prop} {e f : Entity} (h : e.Sound reason)
    (htraits : f.traits = e.traits) (hanimators : f.animators = e.animators)
    (hplane : f.model.map (·.plane) = e.model.map (·.plane)) : f.Sound reason :=
  ⟨h.drawable.congr hanimators hplane, fun t ht => h.traits t (htraits ▸ ht)⟩

/-- A trait that is attached needs a reason to be one that cannot be run. -/
theorem Sound.attached {reason : Prop} {e f : Entity} {t : Trait} (h : e.Sound reason)
    (hf : e.Attached f [t]) (ht : t.isEnabled = true → t.Stalls → reason) : f.Sound reason := by
  refine ⟨h.drawable.congr (by rw [hf.rest]) (by rw [hf.rest]), fun u hu => ?_⟩
  rw [hf.traits] at hu
  rcases List.mem_append.1 hu with hu | hu
  · exact h.traits u hu
  · rw [List.map_singleton, List.mem_singleton] at hu
    subst hu
    exact ht

end Entity

namespace Blueprint

variable {b : Blueprint} {ts : List Trait} {e : Entity}

/-- An instance can draw again what it has drawn when it was built. -/
theorem drawable_of_outfitted (h : b.Outfitted ts e)
    (hquads : ∀ p ∈ b.planes.head?, ∀ q ∈ b.drawnQuads, p.Takes q) : e.Drawable := by
  have hmodel := h.model
  have hanimators := h.animators
  unfold instanceAnimators at hanimators
  cases hplanes : b.planes with
  | nil =>
      rw [hplanes, List.isEmpty_nil, if_pos rfl, List.forall₂_nil_left_iff] at hanimators
      rw [hplanes] at hmodel
      refine ⟨fun _ => hanimators, ?_, ?_⟩
      · simp [hanimators]
      · simp [hanimators]
  | cons p ps =>
      rw [hplanes, List.isEmpty_cons, if_neg Bool.false_ne_true, List.forall₂_map_left_iff]
        at hanimators
      rw [hplanes] at hmodel
      refine ⟨fun hnone => ?_, fun a ha => ?_, fun m hm q hq => ?_⟩
      · rw [hnone] at hmodel
        cases hmodel
      · obtain ⟨c, -, hc⟩ := Attempt.exists_mem_of_forall₂ hanimators ha
        exact hc.planes
      · rw [hm] at hmodel
        cases hmodel with
        | some hshown =>
            rw [hshown.1.takes_iff]
            refine hquads p (by rw [hplanes]; rfl) q ?_
            obtain ⟨a, ha, hq⟩ := List.mem_flatMap.1 hq
            obtain ⟨c, hmem, hc⟩ := Attempt.exists_mem_of_forall₂ hanimators ha
            rw [hc.drawnQuads] at hq
            exact List.mem_flatMap.2 ⟨c, hmem, hq⟩

/-- An instance is sound if there is a reason for each of its traits that cannot be run. -/
theorem sound_of_outfitted [Application] {reason : Prop} (h : b.Outfitted ts e) (hb : b.Buildable)
    (hts : List.Forall₂ (fun m t => m.make = .ok t) b.traits ts)
    (hreason : ∀ m ∈ b.traits, m.Stalls → reason) : e.Sound reason := by
  refine ⟨drawable_of_outfitted h hb.quads, fun t ht henabled hstalls => ?_⟩
  rw [h.traits] at ht
  obtain ⟨u, hu, rfl⟩ := List.mem_map.1 ht
  obtain ⟨m, hm, hmake⟩ := Attempt.exists_mem_of_forall₂ hts hu
  exact hreason m hm ⟨u, hmake, henabled, hstalls⟩

end Blueprint

end Stagecraft
