import Stagecraft.Proofs.Constructors

/-!
# Reactions

What a host does at an event has two parts: the conditions of its spawning traits and the actions
that its events list. An instance is built with one handler for each condition and then one for each
event, so that the handlers of one event are found by leaving out the others. `Declares` says which
elements of a document the two parts are read from.
-/

namespace Stagecraft

open Markup

namespace Bus

variable {H α : Type}

/-- Handlers that are bound one after the other come after those that are there. -/
theorem bound_foldl_bind (name : α → String) (handler : α → H) (xs : List α) (b : Bus H)
    (event : String) :
    (xs.foldl (fun b x => b.bind (name x) (handler x)) b).bound event =
      b.bound event ++ (xs.filter (name · = event)).map handler := by
  induction xs generalizing b with
  | nil => simp
  | cons x xs ih =>
      rw [List.foldl_cons, ih]
      by_cases hx : name x = event
      · subst hx
        simp [bound_bind_self]
      · simp [bound_bind_of_ne b (handler x) (Ne.symm hx), hx]

@[simp] theorem bound_nil (event : String) : bound ([] : Bus H) event = [] := rfl

end Bus

/-- What a host does at events: the conditions on which it spawns something, and the events that
list actions, both in the order in which they were declared. -/
structure Reactions where
  conditions : List SpawnCondition := []
  bindings : List EventBinding := []

namespace Reactions

def spawnsAt (r : Reactions) (event : String) : List SpawnCondition :=
  r.conditions.filter (·.event = event)

def bindingsAt (r : Reactions) (event : String) : List EventBinding :=
  r.bindings.filter (·.name = event)

/-- The actions of all that is bound to an event, one after the other. -/
def actionsAt (r : Reactions) (event : String) : List Action :=
  (r.bindingsAt event).flatMap (·.actions)

/-- The handlers that an event finds. -/
def handlersAt (r : Reactions) (event : String) : List Handler :=
  (r.spawnsAt event).map .spawn ++ (r.bindingsAt event).map fun b => .actions b.actions

/-- An element of an entity declares the reactions: its trait elements give the conditions, those of
a spawning trait one for each item, and the event elements inside all of its groups of events give
the actions. -/
structure Declares (host : Registrations) (item : Cursor) (r : Reactions) : Prop where
  conditions : ∃ css, List.Forall₂ (fun c cs =>
      if TraitMaker.nameOf c = some "spawn" then
        (c.childrenTagged "item").mapM (TraitMaker.spawnItem host) = .ok cs
      else cs = []) (TraitMaker.sources item) css ∧ r.conditions = css.flatten
  bindings : List.Forall₂ (fun c b => c.get? "name" = some b.name ∧
      (c.childrenTagged "action").mapM Action.ofElement = .ok b.actions)
    (item.inside "events" "event") r.bindings

end Reactions

namespace Customization

/-- The conditions that a customization sets. -/
def spawned : Customization → List SpawnCondition
  | .conditions cs => cs
  | _ => []

end Customization

namespace TraitMaker

/-- The conditions that a definition sets on each trait it makes. -/
def conditions (m : TraitMaker) : List SpawnCondition :=
  m.customizations.flatMap Customization.spawned

theorem conditions_of_customize [Application] {c : TraitClass} (hc : c.Ordinary) {t u : Trait}
    {x : Customization} (ht : t.kind = c) (h : customize t x = .ok u) :
    u.conditions = t.conditions ++ x.spawned := by
  cases x with
  | direction v =>
      cases h
      exact (List.append_nil _).symm
  | attackSurfaces names =>
      cases h
      exact (List.append_nil _).symm
  | conditions cs =>
      change cs.foldlM Trait.addCondition t = .ok u at h
      change u.conditions = t.conditions ++ cs
      induction cs generalizing t with
      | nil =>
          cases h
          exact (List.append_nil _).symm
      | cons d cs ih =>
          obtain ⟨v, hv, h⟩ := Attempt.bind_eq_ok_iff.1 h
          have hkind : v.kind = c := by rw [hc.addCondition t v d ht hv]; exact ht
          rw [ih hkind h, hc.addCondition t v d ht hv]
          exact List.append_assoc _ _ _

theorem conditions_of_make [Application] {m : TraitMaker} (hm : m.base.Ordinary) {t : Trait}
    (h : m.make = .ok t) : t.conditions = m.conditions := by
  have hfold (xs : List Customization) (t u : Trait) (ht : t.kind = m.base)
      (h : xs.foldlM customize t = .ok u) :
      u.conditions = t.conditions ++ xs.flatMap Customization.spawned := by
    induction xs generalizing t with
    | nil =>
        cases h
        simp
    | cons x xs ih =>
        obtain ⟨v, hv, h⟩ := Attempt.bind_eq_ok_iff.1 h
        rw [ih v (kind_of_customize hm hv ht) h, conditions_of_customize hm ht hv,
          List.flatMap_cons, List.append_assoc]
  obtain ⟨u, hu, h⟩ := Attempt.bind_eq_ok_iff.1 h
  have hnew : ({ u with fields := u.fields.putAll m.properties } : Trait).conditions = [] :=
    hm.conditions u hu
  rw [hfold m.customizations { u with fields := u.fields.putAll m.properties } t (hm.kind u hu) h,
    hnew]
  rfl

theorem conditions_of_structured {host : Registrations} {name : String} {c : Cursor}
    {found : List Customization} (h : structured (some host) name c = .ok found) :
    if name = "spawn" then
      (c.childrenTagged "item").mapM (spawnItem host) =
        .ok (found.flatMap Customization.spawned)
    else found.flatMap Customization.spawned = [] := by
  split
  · rename_i hname
    subst hname
    have hspawn : structured (some host) "spawn" c = spawn (some host) c := rfl
    rw [hspawn] at h
    obtain ⟨cs, hcs, h⟩ := Attempt.bind_eq_ok_iff.1 h
    cases h
    simpa [Customization.spawned] using hcs
  · rename_i hname
    -- Conditions that are set make the definition one of a spawning trait.
    rw [List.flatMap_eq_nil_iff]
    intro d hd
    cases d with
    | direction v => rfl
    | attackSurfaces names => rfl
    | conditions cs => exact absurd (spawn_of_conditions h hd).1 hname

theorem conditions_of_ofElement [Application] {host : Registrations} {c : Cursor} {m : TraitMaker}
    (h : ofElement (some host) c = .ok m) :
    if nameOf c = some "spawn" then
      (c.childrenTagged "item").mapM (spawnItem host) = .ok m.conditions
    else m.conditions = [] := by
  unfold ofElement at h
  obtain ⟨-, -, h⟩ := Attempt.bind_eq_ok_iff.1 h
  split at h
  · cases h
  · rename_i name hname
    obtain ⟨base, -, h⟩ := Attempt.bind_eq_ok_iff.1 h
    obtain ⟨template, -, h⟩ := Attempt.bind_eq_ok_iff.1 h
    obtain ⟨properties, -, h⟩ := Attempt.bind_eq_ok_iff.1 h
    obtain ⟨customizations, hcustomizations, h⟩ := Attempt.bind_eq_ok_iff.1 h
    cases h
    have hconditions := conditions_of_structured hcustomizations
    simpa [hname, conditions] using hconditions

end TraitMaker

namespace EventBinding

theorem eq_of_ofElement {c : Cursor} {b : EventBinding} (h : ofElement c = .ok b) :
    c.get? "name" = some b.name ∧
      (c.childrenTagged "action").mapM Action.ofElement = .ok b.actions := by
  unfold ofElement at h
  split at h
  · cases h
  · rename_i name hname
    obtain ⟨actions, hactions, rfl⟩ := Attempt.map_eq_ok_iff.1 h
    exact ⟨(Option.filter_eq_some_iff.1 hname).1, hactions⟩

theorem forall₂_of_allOf {c : Cursor} {bs : List EventBinding} (h : allOf c = .ok bs) :
    List.Forall₂ (fun d b => ofElement d = .ok b) (c.childrenTagged "event") bs := by
  obtain ⟨-, -, h⟩ := Attempt.bind_eq_ok_iff.1 h
  exact Attempt.mapM_eq_ok_iff.1 h

end EventBinding

namespace Entity

theorem bus_of_withTrait [Application] {e f : Entity} {t : Trait} (ht : t.kind.Ordinary)
    (h : e.withTrait t = .ok f) : f.bus = t.bindOn e.bus := by
  by_cases htaken : t.label ∈ e.traits.map Trait.label
  · rw [withTrait_of_taken htaken] at h
    cases h
  · unfold withTrait at h
    rw [applyTrait_of_new ht htaken] at h
    cases h
    rfl

end Entity

namespace Blueprint

/-- What the instances of a blueprint do at events. -/
def reactions (b : Blueprint) : Reactions := ⟨b.traits.flatMap TraitMaker.conditions, b.events⟩

variable [Application]

theorem declares_reactions {host : Registrations} {a : Atlas} {item : Cursor} {b : Blueprint}
    (h : Reads host a item b) : b.reactions.Declares host item := by
  constructor
  · refine ⟨b.traits.map TraitMaker.conditions, ?_, List.flatMap_def⟩
    rw [List.forall₂_map_right_iff]
    exact (TraitMaker.forall₂_of_declared h.traits).imp
      fun _ _ => TraitMaker.conditions_of_ofElement
  · have hread : List.Forall₂ (fun c b => EventBinding.ofElement c = .ok b)
        (item.inside "events" "event") b.events :=
      forall₂_of_declared (fun _ _ => EventBinding.forall₂_of_allOf) h.events
    exact hread.imp fun _ _ => EventBinding.eq_of_ofElement

/-- Each trait that is attached binds its conditions after those of the traits before it. -/
theorem bound_of_attachAll {e f : Entity} {ms : List TraitMaker}
    (hms : ∀ m ∈ ms, m.base.Ordinary) (h : ms.foldlM attach e = .ok f) (event : String) :
    f.bus.bound event = e.bus.bound event ++
      ((ms.flatMap TraitMaker.conditions).filter (·.event = event)).map .spawn := by
  induction ms generalizing e with
  | nil =>
      cases h
      simp
  | cons m ms ih =>
      obtain ⟨d, hd, h⟩ := Attempt.bind_eq_ok_iff.1 h
      obtain ⟨t, ht, hd⟩ := Attempt.bind_eq_ok_iff.1 hd
      have hm : m.base.Ordinary := hms m List.mem_cons_self
      have hkind : t.kind.Ordinary := by rwa [TraitMaker.kind_of_make hm ht]
      rw [ih (fun n hn => hms n (List.mem_cons_of_mem m hn)) h, Entity.bus_of_withTrait hkind hd,
        Trait.bindOn, Bus.bound_foldl_bind, TraitMaker.conditions_of_make hm ht]
      simp

/-- An instance has the handlers of its reactions, in their order, and the sounds and sequences of
its blueprint. -/
theorem bound_of_build {b : Blueprint} (hb : b.Standard) {e : Entity} (h : b.build = .ok e) :
    (∀ event, e.bus.bound event = b.reactions.handlersAt event) ∧ e.audio = b.audio ∧
      e.sequencer = b.sequences.foldl Sequencer.register {} := by
  obtain ⟨base, f, hbase, hf, hrun⟩ := stages_of_build h
  have hblank := hb.base base hbase
  obtain ⟨ts, -, hatt⟩ := attached_of_attachAll hb.traits hf
  -- Drawing an instance changes its animators and its model only.
  have hdrawn : e = { b.script f with animators := e.animators, model := e.model } := by
    obtain rfl : ((b.script f).updateAnimators 0).1 = e := (Prod.ext_iff.1 hrun).1
    rfl
  have haudio : f.audio = b.audio := by
    rw [hatt.rest]
    change base.audio.update b.audio = b.audio
    rw [hblank.audio, Catalog.update_nil]
  have hfresh : f.sequencer = {} := by rw [hatt.rest]; exact hblank.sequencer
  refine ⟨fun event => ?_, ?_, ?_⟩
  · have hscript : e.bus = (b.script f).bus := by rw [hdrawn]
    have houtfit : (b.outfit base).bus = [] := hblank.bus
    rw [hscript, script, Bus.bound_foldl_bind, bound_of_attachAll hb.traits hf, houtfit]
    rfl
  · rw [hdrawn]
    exact haudio
  · rw [hdrawn]
    simp [script, hfresh]

end Blueprint

end Stagecraft
