import Stagecraft.Proofs.Casting
import Stagecraft.Proofs.Filling

/-!
# What spawning traits bring into the world

A spawning trait binds one handler for each of its items when it is attached. From then on the host
may move about, enter and leave worlds, and events may be fired at it, in any order. None of this
changes the handlers, so after any such history an event does what the items say that have it: in a
world there is a new entity for each of them, in their order, at the place where the host is now and
the item's own offset from there. Otherwise nothing comes of it.
-/

namespace Stagecraft

open Markup

namespace Registrations

theorem object?_of_object {r : Registrations} {name : String} {place : Element} {o : Prebuilt}
    (h : r.object name place = .ok o) : r.object? name = some o := by
  unfold object at h
  split at h
  · rename_i hfound
    cases h
    exact hfound
  · cases h

end Registrations

namespace Stage

variable {s : Stage} {n w : Nat} {cs : List SpawnCondition}

/-- New entities come after those that are there, on the stage and in a world. Nothing else
changes. -/
def bringAll (s : Stage) (w : Nat) (es : List Entity) : Stage :=
  { s with
    entities := s.entities ++ es
    worlds := s.worlds.set w { s.world w with
      objects := (s.world w).objects ++ List.range' s.entities.length es.length } }

theorem world_bringAll (hw : w < s.worlds.length) (es : List Entity) :
    (s.bringAll w es).world w = { s.world w with
      objects := (s.world w).objects ++ List.range' s.entities.length es.length } := by
  simp [world, bringAll, hw]

theorem set_world_self (s : Stage) (w : Nat) : s.worlds.set w (s.world w) = s.worlds := by
  apply List.ext_getElem?
  intro i
  rw [List.getElem?_set]
  split
  · subst i
    split
    · rename_i hw
      simp [world, hw]
    · rename_i hw
      exact (List.getElem?_eq_none_iff.2 (by omega)).symm
  · rfl

@[simp] theorem bringAll_nil (s : Stage) (w : Nat) : s.bringAll w [] = s := by
  have hworld : { s.world w with
      objects := (s.world w).objects ++ List.range' s.entities.length 0 } = s.world w := by
    rw [List.range'_zero, List.append_nil]
  rw [bringAll, List.length_nil, hworld, set_world_self, List.append_nil]

theorem bringAll_bringAll (s : Stage) (w : Nat) (es fs : List Entity) :
    (s.bringAll w es).bringAll w fs = s.bringAll w (es ++ fs) := by
  by_cases hw : w < s.worlds.length
  · rw [bringAll, world_bringAll hw]
    simp [bringAll]
  · have hset (v : World Nat) : s.worlds.set w v = s.worlds := List.set_eq_of_length_le (by omega)
    simp [bringAll, hset, List.append_assoc]

theorem bringInto_eq (s : Stage) (w : Nat) (e : Entity) :
    s.bringInto w e = s.bringAll w [(e.numbered s.entities.length).inWorld w] := by
  simp [bringInto, put, bring, bringAll, setEntity, setWorld, entity, world, World.push]

theorem entity_bringAll (hn : n < s.entities.length) (es : List Entity) :
    (s.bringAll w es).entity n = s.entity n := by
  simp [entity, bringAll, List.getElem?_append_left hn]

theorem entity_setEntity_self (hn : n < s.entities.length) (e : Entity) :
    (s.setEntity n e).entity n = e := by
  rw [entity_setEntity hn, if_pos rfl]

/-- A host reacts to events by spawning on these conditions, and in no other way. -/
structure Nests (s : Stage) (n : Nat) (cs : List SpawnCondition) : Prop where
  present : n < s.entities.length
  bound : ∀ event, (s.bus (.entity n)).bound event = (cs.filter (·.event = event)).map .spawn

theorem Nests.setEntity (hs : s.Nests n cs) {e : Entity} (he : e.bus = (s.entity n).bus) :
    (s.setEntity n e).Nests n cs := by
  refine ⟨by simpa [Stage.setEntity] using hs.present, fun event => ?_⟩
  rw [bus, entity_setEntity_self hs.present, he]
  exact hs.bound event

theorem Nests.put (hs : s.Nests n cs) (w : Nat) : (s.put w n).Nests n cs :=
  have hset : (s.setEntity n ((s.entity n).inWorld w)).Nests n cs := hs.setEntity rfl
  ⟨hset.present, hset.bound⟩

theorem Nests.bringAll (hs : s.Nests n cs) (w : Nat) (es : List Entity) :
    (s.bringAll w es).Nests n cs := by
  refine ⟨?_, fun event => ?_⟩
  · have hn := hs.present
    simp only [Stage.bringAll, List.length_append]
    omega
  · rw [bus, entity_bringAll hs.present]
    exact hs.bound event

end Stage

namespace SpawnCondition

/-- A new entity that a condition calls for, where the host is at a position in a world. -/
def Yields [Application] (position : Vec3) (w : Nat) (k : SpawnCondition) (e : Entity) : Prop :=
  ∃ f, k.constructor.make = .ok f ∧
    e = ({ f with position := position.add k.offset }.numbered e.number).inWorld w

end SpawnCondition

namespace Stage

variable [Application] {l : Loader} {s : Stage} {n w : Nat} {cs : List SpawnCondition}

/-- Where a host is in no world, its conditions come to nothing. -/
theorem foldl_spawn_of_none (hw : (s.entity n).world = none) (ks : List SpawnCondition) :
    (ks.map Effect.spawn).foldl (Effect.apply (.entity n)) s = s := by
  induction ks with
  | nil => rfl
  | cons k ks ih =>
      have hk : Effect.apply (.entity n) s (.spawn k) = s := by
        simp only [Effect.apply, spawned, hw]
      rw [List.map_cons, List.foldl_cons, hk, ih]

/-- In a world, each condition yields an entity, and the host stays where it is. -/
theorem foldl_spawn_of_some (hn : n < s.entities.length) (hw : (s.entity n).world = some w)
    {ks : List SpawnCondition} (hks : ∀ k ∈ ks, ∃ e, k.constructor.make = .ok e) :
    ∃ es, List.Forall₂ (SpawnCondition.Yields (s.entity n).position w) ks es ∧
      es.map (·.number) = List.range' s.entities.length es.length ∧
      (ks.map Effect.spawn).foldl (Effect.apply (.entity n)) s = s.bringAll w es := by
  induction ks generalizing s with
  | nil => exact ⟨[], .nil, rfl, (bringAll_nil s w).symm⟩
  | cons k ks ih =>
      obtain ⟨f, hf⟩ := hks k List.mem_cons_self
      let e : Entity := ({ f with position := (s.entity n).position.add k.offset }.numbered
        s.entities.length).inWorld w
      have hk : Effect.apply (.entity n) s (.spawn k) = s.bringAll w [e] := by
        simp only [Effect.apply, spawned, hw, hf, bringInto_eq]
        rfl
      have hentity : (s.bringAll w [e]).entity n = s.entity n := entity_bringAll hn [e]
      have hlength : (s.bringAll w [e]).entities.length = s.entities.length + 1 := by
        simp [bringAll]
      have hlater : n < (s.bringAll w [e]).entities.length := by omega
      obtain ⟨es, hes, hnumbers, hfold⟩ := ih hlater (hentity ▸ hw) fun j hj =>
        hks j (List.mem_cons_of_mem k hj)
      rw [hentity] at hes
      refine ⟨e :: es, .cons ⟨f, hf, rfl⟩ hes, ?_, ?_⟩
      · rw [List.map_cons, hnumbers, hlength, List.length_cons, List.range'_succ]
        rfl
      · rw [List.map_cons, List.foldl_cons, hk, hfold, bringAll_bringAll]
        rfl

section Fire

variable (hs : s.Nests n cs) (hcs : ∀ k ∈ cs, ∃ e, k.constructor.make = .ok e) (limit : Nat)
include hs hcs

theorem ends_fire_spawns (event : String) (payload : List Payload) :
    Ends (fire l (limit + 1) (.entity n) event payload) s (.ok ())
      (((cs.filter (·.event = event)).map Effect.spawn).foldl (Effect.apply (.entity n)) s) := by
  rw [ends_fire_iff, hs.bound]
  exact ends_spawns _ _ _ _ _ _ (fun k hk => hcs k (List.mem_filter.1 hk).1) s

theorem ends_fire_of_none (hw : (s.entity n).world = none) (event : String)
    (payload : List Payload) :
    Ends (fire l (limit + 1) (.entity n) event payload) s (.ok ()) s := by
  have hrun := ends_fire_spawns (l := l) hs hcs limit event payload
  rwa [foldl_spawn_of_none hw] at hrun

theorem ends_fire_of_some (hw : (s.entity n).world = some w) (event : String)
    (payload : List Payload) :
    ∃ es, List.Forall₂ (SpawnCondition.Yields (s.entity n).position w)
        (cs.filter (·.event = event)) es ∧
      es.map (·.number) = List.range' s.entities.length es.length ∧
      Ends (fire l (limit + 1) (.entity n) event payload) s (.ok ()) (s.bringAll w es) := by
  have hmade : ∀ k ∈ cs.filter (·.event = event), ∃ e, k.constructor.make = .ok e :=
    fun k hk => hcs k (List.mem_filter.1 hk).1
  obtain ⟨es, hes, hnumbers, hfold⟩ := foldl_spawn_of_some hs.present hw hmade
  have hrun := ends_fire_spawns (l := l) hs hcs limit event payload
  rw [hfold] at hrun
  exact ⟨es, hes, hnumbers, hrun⟩

end Fire

end Stage

/-- Where an entity is, and in which world. -/
structure Spot where
  position : Vec3
  world : Option Nat

def Entity.spot (e : Entity) : Spot := ⟨e.position, e.world⟩

/-- What happens to an entity. An event may be fired with some levels besides its own. -/
inductive Happening where
  | fires (event : String) (payload : List Payload) (limit : Nat)
  | moves (position : Vec3)
  | enters (w : Nat)
  | leaves

namespace Happening

open Stage

/-- Where the entity is then. -/
def next (spot : Spot) : Happening → Spot
  | fires _ _ _ => spot
  | moves position => { spot with position }
  | enters w => { spot with world := some w }
  | leaves => { spot with world := none }

variable [Application] {l : Loader} {s : Stage} {n : Nat} {cs : List SpawnCondition}

/-- The stage goes through what happens to an entity. -/
def play (l : Loader) (n : Nat) : Happening → Play Unit
  | fires event payload limit => fire l (limit + 1) (.entity n) event payload
  | moves position => modify fun s => s.setEntity n { s.entity n with position }
  | enters w => modify (·.put w n)
  | leaves => modify fun s => s.setEntity n { s.entity n with world := none }

/-- Whatever happens, the handlers stay as they are. -/
theorem ends_play (hs : s.Nests n cs) (hcs : ∀ k ∈ cs, ∃ e, k.constructor.make = .ok e)
    (x : Happening) :
    ∃ t, Ends (x.play l n) s (.ok ()) t ∧ t.Nests n cs ∧
      (t.entity n).spot = x.next (s.entity n).spot := by
  have hset (e : Entity) : (s.setEntity n e).entity n = e := entity_setEntity_self hs.present e
  cases x with
  | fires event payload limit =>
      cases hw : (s.entity n).world with
      | none => exact ⟨s, ends_fire_of_none hs hcs limit hw event payload, hs, rfl⟩
      | some w =>
          obtain ⟨es, -, -, hrun⟩ := ends_fire_of_some (l := l) hs hcs limit hw event payload
          exact ⟨s.bringAll w es, hrun, hs.bringAll w es,
            congrArg Entity.spot (entity_bringAll hs.present es)⟩
  | moves position => exact ⟨_, ⟨rfl, rfl⟩, hs.setEntity rfl, congrArg Entity.spot (hset _)⟩
  | enters w => exact ⟨_, ⟨rfl, rfl⟩, hs.put w, congrArg Entity.spot (hset _)⟩
  | leaves => exact ⟨_, ⟨rfl, rfl⟩, hs.setEntity rfl, congrArg Entity.spot (hset _)⟩

/-- After any history the handlers are still there, and the entity is where it has gone last. -/
theorem ends_playAll (hs : s.Nests n cs) (hcs : ∀ k ∈ cs, ∃ e, k.constructor.make = .ok e)
    (xs : List Happening) :
    ∃ t, Ends (xs.forM (play l n)) s (.ok ()) t ∧ t.Nests n cs ∧
      (t.entity n).spot = xs.foldl next (s.entity n).spot := by
  induction xs generalizing s with
  | nil => exact ⟨s, ends_pure s, hs, rfl⟩
  | cons x xs ih =>
      obtain ⟨t, hx, ht, hspot⟩ := ends_play (l := l) hs hcs x
      obtain ⟨u, hxs, hu, hspots⟩ := ih ht
      refine ⟨u, hx.bind hxs, hu, ?_⟩
      rw [hspots, hspot]
      rfl

end Happening

/-- The entity that an item calls for, where the host is at a position in a world. It is a new one
of the class that is registered for the item's object. -/
def SpawnedFrom [Application] (host : Registrations) (position : Vec3) (w : Nat) (item : Cursor)
    (e : Entity) : Prop :=
  ∃ k : SpawnCondition, k.DescribedBy host item ∧ k.Yields position w e

/-- What an event comes to at a host with the items of a spawner. In a world there is a new entity
for each item that has the event, in order and each with a number of its own, and nothing else
changes; in no world, and also without such an item, nothing changes at all. -/
structure SpawnsAt [Application] (host : Registrations) (c : Cursor) (event : String) (n : Nat)
    (s t : Stage) : Prop where
  away : (s.entity n).world = none → t = s
  quiet : (∀ item ∈ c.childrenTagged "item", item.get? "event" ≠ some event) → t = s
  inside : ∀ w, (s.entity n).world = some w → ∃ es,
    List.Forall₂ (SpawnedFrom host (s.entity n).position w)
      ((c.childrenTagged "item").filter (·.get? "event" = some event)) es ∧
    es.map (·.number) = List.range' s.entities.length es.length ∧
    t = s.bringAll w es ∧ (w < s.worlds.length → (t.world w).objects =
      (s.world w).objects ++ List.range' s.entities.length es.length)

namespace Stage

section

variable [Application] {l : Loader} {s : Stage} {n : Nat} {cs : List SpawnCondition}

theorem exists_spawnsAt {host : Registrations} {c : Cursor} (hs : s.Nests n cs)
    (hcs : ∀ k ∈ cs, ∃ e, k.constructor.make = .ok e)
    (hitems : List.Forall₂ (fun item k => k.DescribedBy host item) (c.childrenTagged "item") cs)
    (event : String) (payload : List Payload) (limit : Nat) :
    ∃ t, Ends (fire l (limit + 1) (.entity n) event payload) s (.ok ()) t ∧
      SpawnsAt host c event n s t := by
  cases hw : (s.entity n).world with
  | none =>
      have hrun := ends_fire_of_none (l := l) hs hcs limit hw event payload
      exact ⟨s, hrun, fun _ => rfl, fun _ => rfl, fun w hw' => by cases hw.symm.trans hw'⟩
  | some w =>
      obtain ⟨es, hes, hnumbers, hrun⟩ :=
        ends_fire_of_some (l := l) hs hcs limit hw event payload
      have hfilter : List.Forall₂ (fun item k => k.DescribedBy host item)
          ((c.childrenTagged "item").filter (·.get? "event" = some event))
          (cs.filter (·.event = event)) := by
        refine List.rel_filter ?_ hitems
        intro item k hk
        simp [hk.event]
      have hspawned := Attempt.forall₂_comp hfilter hes fun item k e hk he =>
        (⟨k, hk, he⟩ : SpawnedFrom host (s.entity n).position w item e)
      refine ⟨s.bringAll w es, hrun, ?_, ?_, ?_⟩
      · intro hnone
        cases hw.symm.trans hnone
      · intro hquiet
        have hnil : (c.childrenTagged "item").filter (·.get? "event" = some event) = [] := by
          simpa [List.filter_eq_nil_iff] using hquiet
        rw [hnil, List.forall₂_nil_left_iff] at hspawned
        rw [hspawned, bringAll_nil]
      · intro w' hw'
        cases hw.symm.trans hw'
        exact ⟨es, hspawned, hnumbers, rfl, fun hlt => by rw [world_bringAll hlt]⟩

/-- A spawning trait that is attached to an entity without handlers. -/
theorem nests_of_withTrait {t : Trait} {f : Entity} (ht : t.kind.Ordinary)
    (hn : n < s.entities.length) (hbus : ∀ event, (s.bus (.entity n)).bound event = [])
    (hf : (s.entity n).withTrait t = .ok f) :
    (s.setEntity n f).Nests n t.conditions := by
  refine ⟨by simpa [setEntity] using hn, fun event => ?_⟩
  have hnone : (s.entity n).bus.bound event = [] := hbus event
  rw [bus, entity_setEntity_self hn, Entity.bus_of_withTrait ht hf, Trait.bindOn,
    Bus.bound_foldl_bind, hnone, List.nil_append]

end

/-- A host application with something to hatch. -/
def brooding : Registrations := { resources := [("object", [("chick", .object (.maker .plain))])] }

/-- A spawner with two items for one event and another one in between. -/
def nest : Cursor :=
  .ofDocument ⟨⟨"trait", [("name", "spawn")], 1,
    [.element "item" [("event", "hatch"), ("object", "chick")] 2
        [.element "offset" [("x", "1"), ("y", "2")] 3 []],
      .element "item" [("event", "rest"), ("object", "chick")] 4 [],
      .element "item" [("event", "hatch"), ("object", "chick")] 5 []]⟩, none⟩

end Stage

end Stagecraft
