import Mathlib.Data.List.Nodup
import Stagecraft.Proofs.Attempt
import Stagecraft.Proofs.Drawing
import Stagecraft.Entity.Blueprint

/-!
# Building entities

An entity is built from a blueprint in three stages: what is known is copied, traits are attached
one after the other, and the animators draw once. Attaching carries the labels of the traits that
are attached; it goes through as long as they are all different. Drawing goes through when the plane
takes every quad that an animator draws on. So whether a blueprint can be built is a condition on
the blueprint alone (`Blueprint.Buildable`).
-/

namespace Stagecraft

namespace Entity

theorem isSome_trait?_iff (e : Entity) (label : String) :
    (e.trait? label).isSome ↔ label ∈ e.traits.map Trait.label := by
  simp [trait?]

/-- What attaching traits leaves as it is. -/
structure Attached (e f : Entity) (ts : List Trait) : Prop where
  traits : f.traits = e.traits ++ ts.map (·.hostedBy e.number)
  rest : f = { e with traits := f.traits, bus := f.bus }

/-- An entity that shows nothing and does nothing. It may have traits. -/
structure Blank (e : Entity) : Prop where
  model : e.model = none
  animators : e.animators = []
  textures : e.textures = []
  audio : e.audio = []
  bus : e.bus = []
  sequencer : e.sequencer = {}

theorem blank_new : Blank {} := ⟨rfl, rfl, rfl, rfl, rfl, rfl⟩

theorem Attached.nil (e : Entity) : Attached e e [] := ⟨by simp, rfl⟩

theorem Attached.number {e f : Entity} {ts : List Trait} (h : Attached e f ts) :
    f.number = e.number := by rw [h.rest]

theorem Attached.cons {e f g : Entity} {t : Trait} {ts : List Trait} (h : Attached e f [t])
    (h' : Attached f g ts) : Attached e g (t :: ts) := by
  refine ⟨?_, ?_⟩
  · rw [h'.traits, h.traits, h.number]
    simp
  · rw [h'.rest, h.rest]

end Entity

namespace Blueprint

/-- The labels of attached traits and of traits that are still to be attached. -/
def labels (e : Entity) (ms : List TraitMaker) : List String :=
  e.traits.map Trait.label ++ ms.map fun m => m.base.label

theorem labels_attached {e f : Entity} {m : TraitMaker} {t : Trait} (h : e.Attached f [t])
    (ht : t.kind = m.base) (ms : List TraitMaker) : labels f ms = labels e (m :: ms) := by
  have hlabel : t.label = m.base.label := congrArg TraitClass.label ht
  unfold labels
  rw [h.traits, List.map_append, List.append_assoc, List.map_cons (l := ms), ← hlabel]
  rfl

/-- The quads that the animators of an instance draw on. -/
def drawnQuads (b : Blueprint) : List Int := b.animators.flatMap Animator.drawnQuads

/-- The traits have different labels, and the plane takes every quad that is drawn on it. -/
structure Buildable (b : Blueprint) : Prop where
  labels : (b.traits.map fun m => m.base.label).Nodup
  quads : ∀ p ∈ b.planes.head?, ∀ q ∈ b.drawnQuads, p.Takes q

/-- What the first drawing comes to. -/
def drawn (b : Blueprint) : Except Fault Unit :=
  match b.planes.head? with
  | none => .ok ()
  | some p => Animator.outcome p b.drawnQuads

theorem drawn_of_takes {b : Blueprint} (h : ∀ p ∈ b.planes.head?, ∀ q ∈ b.drawnQuads, p.Takes q) :
    b.drawn = .ok () := by
  unfold drawn
  cases hp : b.planes.head? with
  | none => rfl
  | some p => exact if_pos (h p hp)

theorem drawn_of_not_takes {b : Blueprint}
    (h : ¬ ∀ p ∈ b.planes.head?, ∀ q ∈ b.drawnQuads, p.Takes q) :
    b.drawn = .error .indexRange := by
  unfold drawn
  cases hp : b.planes.head? with
  | none => exact absurd (by simp [hp]) h
  | some p => exact if_neg fun hall => h fun r hr => by cases hp.symm.trans hr; exact hall

/-- The picture of the default texture. -/
def defaultPicture (b : Blueprint) : Option Picture :=
  (b.textures.get? Catalog.defaultKey).bind (·.picture)

/-- A model that shows the default texture on a plane. -/
def ShownOn (b : Blueprint) (m : Model) (p : Plane) : Prop :=
  p.Redrawn m.plane ∧ m = { plane := m.plane, picture := b.defaultPicture }

/-- What an instance has from its blueprint, given the traits that were made for it. -/
structure Outfitted (b : Blueprint) (ts : List Trait) (e : Entity) : Prop where
  name : e.name = some b.id
  audio : e.audio = b.audio
  animations : e.animations = b.animations
  textures : e.textures = b.textures
  collision : e.collision = b.collision
  router : e.router = b.router
  number : e.number = 0
  traits : e.traits = ts.map (·.hostedBy 0)
  sequencer : e.sequencer = b.sequences.foldl Sequencer.register {}
  model : Option.Rel b.ShownOn e.model b.planes.head?
  animators : List.Forall₂ Animator.Alike b.instanceAnimators e.animators

/-- The model of an instance that brings none of its own. -/
def model? (b : Blueprint) : Option Model :=
  b.planes.head?.map fun plane => { plane, picture := b.defaultPicture }

theorem modelOn_of_blank (b : Blueprint) {e : Entity} (he : e.Blank) : b.modelOn e = b.model? := by
  unfold modelOn model? defaultPicture
  rw [he.model, he.textures, Option.or_none]
  rfl

theorem keptAnimators_of_blank (b : Blueprint) {e : Entity} (he : e.Blank) :
    b.keptAnimators e = [] := by
  unfold keptAnimators
  rw [he.animators]
  split <;> rfl

theorem router_plain (b : Blueprint) : (b.outfit {}).router = b.router := Option.or_none

/-- What is drawn at first comes to what the plane takes of the quads. -/
theorem updateAnimators_outfit {b : Blueprint} {e : Entity} (hmodel : e.model = b.model?)
    (hanimators : e.animators = b.instanceAnimators) :
    ∃ as m, Option.Rel b.ShownOn m b.planes.head? ∧
      List.Forall₂ Animator.Alike b.instanceAnimators as ∧
      e.updateAnimators 0 = ({ e with animators := as, model := m }, b.drawn) := by
  unfold Entity.updateAnimators drawn
  rw [hmodel, hanimators]
  unfold model? instanceAnimators
  cases b.planes with
  | nil => exact ⟨[], none, .none, .nil, rfl⟩
  | cons p ps =>
      obtain ⟨as, r, hr, has, hrun⟩ := Entity.runAnimators_single 0
        (b.animators.map fun a => a.fresh.attach 0) (by simp [Animator.attach, Animator.fresh]) p
      have hquads : (b.animators.map fun a => a.fresh.attach 0).flatMap Animator.drawnQuads =
          b.drawnQuads := by
        rw [List.flatMap_map]
        rfl
      rw [hquads] at hrun
      refine ⟨as, some { plane := r, picture := b.defaultPicture }, .some ⟨hr, rfl⟩, has, ?_⟩
      simp only [List.head?_cons, Option.map_some, Option.toList_some, List.isEmpty_cons,
        Bool.false_eq_true, if_false, hrun, Option.getD_some]

/-- With its traits attached, an instance only has to be drawn. -/
theorem exists_outfitted {b : Blueprint} {ts : List Trait} {f : Entity}
    (h : (b.outfit {}).Attached f ts) :
    ∃ e, b.Outfitted ts e ∧ (b.script f).updateAnimators 0 = (e, b.drawn) := by
  obtain ⟨as, m, hm, has, hrun⟩ := updateAnimators_outfit (b := b) (e := b.script f)
    (by rw [h.rest]; exact b.modelOn_of_blank Entity.blank_new)
    (by
      rw [h.rest]
      exact congrArg (· ++ b.instanceAnimators) (b.keptAnimators_of_blank Entity.blank_new))
  refine ⟨{ b.script f with animators := as, model := m }, ?_, hrun⟩
  have htraits : f.traits = ts.map (·.hostedBy 0) := h.traits
  rw [h.rest]
  exact ⟨rfl, rfl, rfl, rfl, rfl, b.router_plain, rfl, htraits, rfl, hm, has⟩

end Blueprint

variable [Application]

/-- A class whose traits are new, take conditions and attach as built-in traits do. Registered
classes inherit this unless they do something else by themselves. -/
structure TraitClass.Ordinary (c : TraitClass) : Prop where
  kind (t : Trait) (h : c.make = .ok t) : t.kind = c
  conditions (t : Trait) (h : c.make = .ok t) : t.conditions = []
  addCondition (t u : Trait) (x : SpawnCondition) (ht : t.kind = c)
    (h : t.addCondition x = .ok u) : u = { t with conditions := t.conditions ++ [x] }
  attach (t : Trait) (e : Entity) (ht : t.kind = c) :
    t.attach e = ({ e with bus := t.bindOn e.bus }, t.hostedBy e.number, .ok ())

theorem TraitClass.ordinary_builtIn (kind : TraitKind) : Ordinary (.builtIn kind) where
  kind t h := by
    cases h
    rfl
  conditions t h := by
    cases h
    rfl
  addCondition t u x ht h := by
    unfold Trait.addCondition at h
    rw [ht] at h
    dsimp only at h
    split at h
    · rw [ht]
      exact (Except.ok.inj h).symm
    · cases h
  attach t e ht := by
    unfold Trait.attach
    rw [ht]

/-- Traits of the class take whatever they are to spawn. -/
def TraitClass.TakesConditions (c : TraitClass) : Prop :=
  ∀ (t : Trait) (x : SpawnCondition), t.kind = c → ∃ u, t.addCondition x = .ok u

theorem TraitClass.takesConditions_spawn : TakesConditions (.builtIn .spawn) := fun t x ht =>
  ⟨{ t with conditions := t.conditions ++ [x] }, by
    simp [Trait.addCondition, ht, Trait.spawns, Trait.isKind]⟩

/-- New entities of the class are blank. -/
def EntityClass.Blank (k : EntityClass) : Prop := ∀ e, k.make = .ok e → e.Blank

theorem EntityClass.blank_plain : Blank .plain := by
  rintro e h
  cases h
  exact Entity.blank_new

namespace TraitMaker

theorem kind_of_customize {c : TraitClass} (hc : c.Ordinary) {t u : Trait} {x : Customization}
    (h : customize t x = .ok u) (ht : t.kind = c) : u.kind = c := by
  cases x with
  | direction v =>
      cases h
      exact ht
  | attackSurfaces names =>
      cases h
      exact ht
  | conditions cs =>
      change cs.foldlM Trait.addCondition t = .ok u at h
      induction cs generalizing t with
      | nil =>
          cases h
          exact ht
      | cons x cs ih =>
          obtain ⟨v, hv, h⟩ := Attempt.bind_eq_ok_iff.1 h
          refine ih ?_ h
          rw [hc.addCondition t v x ht hv]
          exact ht

/-- What is made is of the class that was named. -/
theorem kind_of_make {m : TraitMaker} (hm : m.base.Ordinary) {t : Trait} (h : m.make = .ok t) :
    t.kind = m.base := by
  obtain ⟨u, hu, h⟩ := Attempt.bind_eq_ok_iff.1 h
  have hkind : ({ u with fields := u.fields.putAll m.properties } : Trait).kind = m.base :=
    hm.kind u hu
  generalize ({ u with fields := u.fields.putAll m.properties } : Trait) = v at h hkind
  generalize m.customizations = xs at h
  induction xs generalizing v with
  | nil =>
      cases h
      exact hkind
  | cons x xs ih =>
      obtain ⟨w, hw, h⟩ := Attempt.bind_eq_ok_iff.1 h
      exact ih w (kind_of_customize hm hw hkind) h

/-- A definition that makes traits of an ordinary class. -/
structure Ready (m : TraitMaker) : Prop where
  ordinary : m.base.Ordinary
  makes : ∃ t, m.make = .ok t

/-- Conditions are only set on traits that take them. -/
def TakesConditions (m : TraitMaker) : Prop :=
  ∀ cs, Customization.conditions cs ∈ m.customizations → cs ≠ [] → m.base.TakesConditions

theorem customize_of_kind {t : Trait} {x : Customization} {c : TraitClass} (hc : c.Ordinary)
    (ht : t.kind = c) (hx : ∀ cs, x = .conditions cs → cs ≠ [] → c.TakesConditions) :
    ∃ u, customize t x = .ok u := by
  cases x with
  | direction v => exact ⟨_, rfl⟩
  | attackSurfaces names => exact ⟨_, rfl⟩
  | conditions cs =>
      have htakes := hx cs rfl
      clear hx
      induction cs generalizing t with
      | nil => exact ⟨t, rfl⟩
      | cons d cs ih =>
          obtain ⟨u, hu⟩ := htakes (List.cons_ne_nil d cs) t d ht
          have hkind : u.kind = c := by
            rw [hc.addCondition t u d ht hu]
            exact ht
          obtain ⟨v, hv⟩ := ih hkind fun _ => htakes (List.cons_ne_nil d cs)
          exact ⟨v, Attempt.bind_eq_ok_iff.2 ⟨u, hu, hv⟩⟩

/-- A definition is ready if its class makes traits and they take what is set on them. -/
theorem ready_of_takesConditions {m : TraitMaker} (hordinary : m.base.Ordinary)
    (hmake : ∃ t, m.base.make = .ok t) (hm : m.TakesConditions) : m.Ready := by
  refine ⟨hordinary, ?_⟩
  obtain ⟨t, ht⟩ := hmake
  -- No customization changes the class, and that is all the next one depends on.
  have hfold (xs : List Customization) (hxs : ∀ x ∈ xs, x ∈ m.customizations) (t : Trait)
      (ht : t.kind = m.base) : ∃ u, xs.foldlM customize t = .ok u := by
    induction xs generalizing t with
    | nil => exact ⟨t, rfl⟩
    | cons x xs ih =>
        have hx : x ∈ m.customizations := hxs x List.mem_cons_self
        obtain ⟨u, hu⟩ := customize_of_kind hordinary ht fun cs hcs => hm cs (hcs ▸ hx)
        obtain ⟨v, hv⟩ := ih (fun y hy => hxs y (List.mem_cons_of_mem x hy)) u
          (kind_of_customize hordinary hu ht)
        exact ⟨v, Attempt.bind_eq_ok_iff.2 ⟨u, hu, hv⟩⟩
  obtain ⟨u, hu⟩ := hfold m.customizations (fun _ h => h)
    { t with fields := t.fields.putAll m.properties } (hordinary.kind t ht)
  exact ⟨u, Attempt.bind_eq_ok_iff.2 ⟨t, ht, hu⟩⟩

/-- A definition that is ready makes traits of its class. -/
theorem make_of_ready {m : TraitMaker} (hm : m.Ready) :
    ∃ t, m.make = .ok t ∧ t.kind = m.base :=
  hm.makes.imp fun _ ht => ⟨ht, kind_of_make hm.ordinary ht⟩

end TraitMaker

namespace Entity

theorem applyTrait_of_new {e : Entity} {t : Trait} (ht : t.kind.Ordinary)
    (h : t.label ∉ e.traits.map Trait.label) :
    e.applyTrait t =
      ({ e with traits := e.traits ++ [t.hostedBy e.number], bus := t.bindOn e.bus },
        t.hostedBy e.number, .ok ()) := by
  rw [← isSome_trait?_iff] at h
  unfold applyTrait
  rw [if_neg h, ht.attach t e rfl]

theorem withTrait_of_new {e : Entity} {t : Trait} (ht : t.kind.Ordinary)
    (h : t.label ∉ e.traits.map Trait.label) :
    ∃ f, e.withTrait t = .ok f ∧ Attached e f [t] := by
  refine ⟨{ e with traits := e.traits ++ [t.hostedBy e.number], bus := t.bindOn e.bus }, ?_,
    rfl, rfl⟩
  unfold withTrait
  rw [applyTrait_of_new ht h]

theorem applyTrait_of_taken {e : Entity} {t : Trait} (h : t.label ∈ e.traits.map Trait.label) :
    e.applyTrait t = (e, t, .error (.traitTaken t.label e.name)) := by
  rw [← isSome_trait?_iff] at h
  exact if_pos h

theorem withTrait_of_taken {e : Entity} {t : Trait} (h : t.label ∈ e.traits.map Trait.label) :
    e.withTrait t = .error (.traitTaken t.label e.name) := by
  unfold withTrait
  rw [applyTrait_of_taken h]

theorem attached_of_withTrait {e f : Entity} {t : Trait} (ht : t.kind.Ordinary)
    (h : e.withTrait t = .ok f) : Attached e f [t] := by
  by_cases htaken : t.label ∈ e.traits.map Trait.label
  · rw [withTrait_of_taken htaken] at h
    cases h
  · obtain ⟨g, hg, hatt⟩ := withTrait_of_new ht htaken
    cases hg.symm.trans h
    exact hatt

end Entity

namespace Blueprint

theorem attach_of_new {e : Entity} {m : TraitMaker} (hm : m.Ready)
    (h : m.base.label ∉ e.traits.map Trait.label) :
    ∃ t f, m.make = .ok t ∧ t.kind = m.base ∧ attach e m = .ok f ∧ e.Attached f [t] := by
  obtain ⟨t, ht, hkind⟩ := TraitMaker.make_of_ready hm
  have hlabel : t.label = m.base.label := congrArg TraitClass.label hkind
  obtain ⟨f, hf, h⟩ := Entity.withTrait_of_new (hkind.symm ▸ hm.ordinary) (hlabel.symm ▸ h)
  exact ⟨t, f, ht, hkind, Attempt.bind_eq_ok_iff.2 ⟨t, ht, hf⟩, h⟩

theorem attach_of_taken {e : Entity} {m : TraitMaker} (hm : m.Ready)
    (h : m.base.label ∈ e.traits.map Trait.label) :
    attach e m = .error (.traitTaken m.base.label e.name) := by
  obtain ⟨t, ht, hkind⟩ := TraitMaker.make_of_ready hm
  have hlabel : t.label = m.base.label := congrArg TraitClass.label hkind
  rw [← hlabel] at h ⊢
  exact Attempt.bind_eq_error_iff.2 (.inr ⟨t, ht, Entity.withTrait_of_taken h⟩)

/-- Traits with different labels are attached one after the other. -/
theorem attachAll_of_nodup {e : Entity} {ms : List TraitMaker} (hms : ∀ m ∈ ms, m.Ready)
    (h : (labels e ms).Nodup) :
    ∃ ts f, List.Forall₂ (fun m t => m.make = .ok t) ms ts ∧ ms.foldlM attach e = .ok f ∧
      e.Attached f ts := by
  induction ms generalizing e with
  | nil => exact ⟨[], e, .nil, rfl, .nil e⟩
  | cons m ms ih =>
      have hnew : m.base.label ∉ e.traits.map Trait.label :=
        fun hmem => (List.nodup_append.1 h).2.2 _ hmem _ List.mem_cons_self rfl
      obtain ⟨t, f, ht, hkind, hf, hatt⟩ := attach_of_new (hms m List.mem_cons_self) hnew
      rw [← labels_attached hatt hkind] at h
      obtain ⟨ts, g, hts, hg, hrest⟩ := ih (fun n hn => hms n (List.mem_cons_of_mem m hn)) h
      exact ⟨t :: ts, g, .cons ht hts, Attempt.bind_eq_ok_iff.2 ⟨f, hf, hg⟩, hatt.cons hrest⟩

/-- Traits that have been attached were made, one for each definition. -/
theorem attached_of_attachAll {e f : Entity} {ms : List TraitMaker}
    (hms : ∀ m ∈ ms, m.base.Ordinary) (h : ms.foldlM attach e = .ok f) :
    ∃ ts, List.Forall₂ (fun m t => m.make = .ok t) ms ts ∧ e.Attached f ts := by
  induction ms generalizing e with
  | nil =>
      cases h
      exact ⟨[], .nil, .nil _⟩
  | cons m ms ih =>
      obtain ⟨d, hd, h⟩ := Attempt.bind_eq_ok_iff.1 h
      obtain ⟨t, ht, hd⟩ := Attempt.bind_eq_ok_iff.1 hd
      obtain ⟨ts, hts, hatt⟩ := ih (fun n hn => hms n (List.mem_cons_of_mem m hn)) h
      have hordinary : m.base.Ordinary := hms m List.mem_cons_self
      have hkind : t.kind = m.base := TraitMaker.kind_of_make hordinary ht
      exact ⟨t :: ts, .cons ht hts,
        (Entity.attached_of_withTrait (hkind.symm ▸ hordinary) hd).cons hatt⟩

/-- Of traits with the same label, the second one is refused. -/
theorem attachAll_of_not_nodup {e : Entity} {ms : List TraitMaker} (hms : ∀ m ∈ ms, m.Ready)
    (he : (e.traits.map Trait.label).Nodup) (h : ¬ (labels e ms).Nodup) :
    ∃ label, ms.foldlM attach e = .error (.traitTaken label e.name) := by
  induction ms generalizing e with
  | nil => exact absurd (by simpa [labels] using he) h
  | cons m ms ih =>
      by_cases hnew : m.base.label ∈ e.traits.map Trait.label
      · exact ⟨m.base.label,
          Attempt.bind_eq_error_iff.2 (.inl (attach_of_taken (hms m List.mem_cons_self) hnew))⟩
      · obtain ⟨t, f, ht, hkind, hf, hatt⟩ := attach_of_new (hms m List.mem_cons_self) hnew
        have hfe : (f.traits.map Trait.label).Nodup := by
          have hlabel : t.label = m.base.label := congrArg TraitClass.label hkind
          rw [hatt.traits, List.map_append]
          refine List.nodup_append.2 ⟨he, List.nodup_singleton _, ?_⟩
          rintro label hmem _ hone rfl
          rw [List.mem_singleton.1 hone] at hmem
          exact hnew (hlabel ▸ hmem)
        rw [← labels_attached hatt hkind] at h
        obtain ⟨label, hlabel⟩ := ih (fun n hn => hms n (List.mem_cons_of_mem m hn)) hfe h
        have hname : f.name = e.name := by rw [hatt.rest]
        exact ⟨label, Attempt.bind_eq_error_iff.2 (.inr ⟨f, hf, hname ▸ hlabel⟩)⟩

theorem make_plain : EntityClass.plain.make = .ok {} := rfl

theorem build_eq {b : Blueprint} (hbase : b.base = EntityClass.plain) :
    b.build = b.traits.foldlM attach (b.outfit {}) >>= fun e =>
      ((b.script e).updateAnimators 0).2.map fun _ => ((b.script e).updateAnimators 0).1 := by
  unfold build
  rw [hbase, make_plain]
  change b.traits.foldlM attach (b.outfit {}) >>= _ = _
  congr 1
  funext e
  rcases h : (b.script e).updateAnimators 0 with ⟨f, _ | _⟩
  · rfl
  · rfl

variable {b : Blueprint}

/-- The classes that are named make blank entities and ordinary traits. -/
structure Standard (b : Blueprint) : Prop where
  base : b.base.Blank
  traits : ∀ m ∈ b.traits, m.base.Ordinary

/-- With traits that differ and quads that fit, an instance is built. -/
theorem build_of_buildable (hbase : b.base = EntityClass.plain) (hready : ∀ m ∈ b.traits, m.Ready)
    (hb : b.Buildable) :
    ∃ ts e, b.build = .ok e ∧ List.Forall₂ (fun m t => m.make = .ok t) b.traits ts ∧
      b.Outfitted ts e := by
  obtain ⟨ts, f, hts, hf, hatt⟩ := attachAll_of_nodup (e := b.outfit {}) hready hb.labels
  obtain ⟨e, he, hrun⟩ := exists_outfitted hatt
  refine ⟨ts, e, ?_, hts, he⟩
  rw [build_eq hbase, hf]
  change ((b.script f).updateAnimators 0).2.map _ = _
  rw [hrun, drawn_of_takes hb.quads]
  rfl

/-- What is built has been made, has got its traits and has been drawn. -/
theorem stages_of_build {e : Entity} (h : b.build = .ok e) :
    ∃ base f, b.base.make = .ok base ∧ b.traits.foldlM attach (b.outfit base) = .ok f ∧
      (b.script f).updateAnimators 0 = (e, .ok ()) := by
  obtain ⟨base, hbase, h⟩ := Attempt.bind_eq_ok_iff.1 h
  obtain ⟨f, hf, h⟩ := Attempt.bind_eq_ok_iff.1 h
  refine ⟨base, f, hbase, hf, ?_⟩
  rcases hrun : (b.script f).updateAnimators 0 with ⟨g, _ | _⟩
  · rw [hrun] at h
    cases h
  · rw [hrun] at h
    cases h
    rfl

theorem outfitted_of_build (hbase : b.base = EntityClass.plain)
    (hordinary : ∀ m ∈ b.traits, m.base.Ordinary) {e : Entity} (h : b.build = .ok e) :
    ∃ ts, List.Forall₂ (fun m t => m.make = .ok t) b.traits ts ∧ b.Outfitted ts e := by
  obtain ⟨base, f, hmake, hf, hdrawn⟩ := stages_of_build h
  rw [hbase] at hmake
  cases hmake
  obtain ⟨ts, hts, hatt⟩ := attached_of_attachAll hordinary hf
  obtain ⟨g, hg, hrun⟩ := exists_outfitted hatt
  obtain rfl := (Prod.ext_iff.1 (hdrawn.symm.trans hrun)).1
  exact ⟨ts, hts, hg⟩

/-- A trait that is repeated or a quad that does not fit is found when an instance is built. -/
theorem build_of_not_buildable (hbase : b.base = EntityClass.plain)
    (hready : ∀ m ∈ b.traits, m.Ready) (hb : ¬ b.Buildable) :
    b.build = .error .indexRange ∨ ∃ label, b.build = .error (.traitTaken label (some b.id)) := by
  by_cases hlabels : (b.traits.map fun m => m.base.label).Nodup
  · left
    obtain ⟨ts, f, hts, hf, hatt⟩ := attachAll_of_nodup (e := b.outfit {}) hready hlabels
    obtain ⟨e, -, hrun⟩ := exists_outfitted hatt
    have hquads : ¬ ∀ p ∈ b.planes.head?, ∀ q ∈ b.drawnQuads, p.Takes q :=
      fun h => hb ⟨hlabels, h⟩
    rw [build_eq hbase, hf]
    change ((b.script f).updateAnimators 0).2.map _ = _
    rw [hrun, drawn_of_not_takes hquads]
    rfl
  · right
    obtain ⟨label, hlabel⟩ :=
      attachAll_of_not_nodup (e := b.outfit {}) hready List.nodup_nil hlabels
    refine ⟨label, ?_⟩
    rw [build_eq hbase, hlabel]
    rfl

end Blueprint

end Stagecraft
