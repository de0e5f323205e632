import Stagecraft.Proofs.Casting
import Stagecraft.Proofs.Reactions

/-!
# Attaching traits

Traits come to an entity from the host application, from the definition that it is built from and
from the layout that places it. All of them ask first whether the label of the trait is taken, and
only then is anything changed: neither the entity nor the trait differs after a call that is
refused. So an entity keeps the traits that it has, their labels stay different, a label leads to
one trait, and that has the entity as its host. This is shown for one call and then for calls in a
row, whether they succeed or fail.
-/

namespace Stagecraft

open Markup

namespace Entity

/-- The traits of an entity have different labels, have it as their host, and are found by their
labels. -/
structure Keyed (e : Entity) : Prop where
  labels : (e.traits.map Trait.label).Nodup
  host : ∀ t ∈ e.traits, t.host = some e.number
  found : ∀ t ∈ e.traits, e.trait? t.label = some t

variable {e f : Entity} {t : Trait}

/-- With different labels, each trait is the first one that its label leads to. -/
theorem trait?_of_mem (h : (e.traits.map Trait.label).Nodup) (ht : t ∈ e.traits) :
    e.trait? t.label = some t := by
  have hsome : (e.trait? t.label).isSome := by
    rw [isSome_trait?_iff]
    exact List.mem_map_of_mem ht
  obtain ⟨u, hu⟩ := Option.isSome_iff_exists.1 hsome
  have hmem : u ∈ e.traits := List.mem_of_find?_eq_some hu
  have hlabel : u.label = t.label := by simpa using List.find?_some hu
  rw [hu, List.inj_on_of_nodup_map h hmem ht hlabel]

theorem keyed_of_nil (h : e.traits = []) : e.Keyed := by
  constructor
  · simp [h]
  · simp [h]
  · simp [h]

/-- A trait with a new label comes after those that are attached. -/
theorem Keyed.append (he : e.Keyed) (hnew : t.label ∉ e.traits.map Trait.label)
    (hf : e.Attached f [t]) : f.Keyed := by
  have hlabels : (f.traits.map Trait.label).Nodup := by
    have hone : f.traits.map Trait.label = e.traits.map Trait.label ++ [t.label] := by
      rw [hf.traits, List.map_append]
      rfl
    rw [hone]
    exact he.labels.append (List.nodup_singleton _) (by simpa using hnew)
  refine ⟨hlabels, fun u hu => ?_, fun u hu => trait?_of_mem hlabels hu⟩
  rw [hf.traits, List.mem_append, List.map_singleton, List.mem_singleton] at hu
  rw [hf.number]
  rcases hu with hu | rfl
  · exact he.host u hu
  · rfl

/-- So it is for an entity that gets another number, as when it comes on a stage. -/
theorem Keyed.numbered (he : e.Keyed) (k : Nat) : (e.numbered k).Keyed := by
  have hlabels : ((e.numbered k).traits.map Trait.label).Nodup := by
    have hsame : (e.numbered k).traits.map Trait.label = e.traits.map Trait.label := by
      simp [Entity.numbered, Trait.moved, Trait.label]
    rw [hsame]
    exact he.labels
  refine ⟨hlabels, fun u hu => ?_, fun u hu => trait?_of_mem hlabels hu⟩
  obtain ⟨t, ht, rfl⟩ := List.mem_map.1 hu
  simp [Trait.moved, he.host t ht, Entity.numbered]

end Entity

/-- A call that attaches a trait: by the host application, by the constructor of an entity, or by a
layout, for an element inside of the one that places an object. -/
inductive Attachment where
  | host (t : Trait)
  | constructor (m : TraitMaker)
  | layout (l : Loader) (object : Option String) (c : Cursor)

section

variable [Application]

namespace Attachment

/-- The trait that is to be attached. -/
def trait : Attachment → Except Fault Trait
  | host t => .ok t
  | constructor m => m.make
  | layout l _ c => do (← TraitMaker.ofElement (some l.host) c).make

/-- The trait attaches as built-in ones do. -/
def Ordinary (a : Attachment) : Prop := ∀ t, a.trait = .ok t → t.kind.Ordinary

/-- What is wrong with a trait whose label is taken. -/
def clash (e : Entity) (label : String) : Attachment → Fault
  | layout _ object c => .defect (.traitRepeated label object) c.element
  | _ => .traitTaken label e.name

/-- The entity and the trait after a call with a trait, and how it ended. A layout does not apply a
trait whose label is taken. -/
def call (a : Attachment) (e : Entity) (t : Trait) : Entity × Trait × Except Fault Unit :=
  match a with
  | layout _ _ _ =>
    if (e.trait? t.label).isSome then (e, t, .error (a.clash e t.label)) else e.applyTrait t
  | _ => e.applyTrait t

/-- The entity after a call, and how it ended. -/
def run (e : Entity) (a : Attachment) : Entity × Except Fault Unit :=
  match a.trait with
  | .ok t => ((a.call e t).1, (a.call e t).2.2)
  | .error fault => (e, .error fault)

/-- What a caller has who drops the entity if the call fails. -/
def attach (e : Entity) : Attachment → Except Fault Entity
  | host t => e.withTrait t
  | constructor m => Blueprint.attach e m
  | layout l object c => Placement.attach l object e c

def next (e : Entity) (a : Attachment) : Entity := (run e a).1

variable {e f : Entity} {a : Attachment} {t : Trait} {fault : Fault}

theorem ordinary_host (h : t.kind.Ordinary) : (host t).Ordinary := by
  rintro u ⟨⟩
  exact h

theorem ordinary_constructor {m : TraitMaker} (h : m.base.Ordinary) :
    (constructor m).Ordinary := fun t ht => by rwa [TraitMaker.kind_of_make h ht]

theorem ordinary_layout {l : Loader} (h : l.host.Standard) (object : Option String) (c : Cursor) :
    (layout l object c).Ordinary := by
  intro t ht
  obtain ⟨m, hm, ht⟩ := Attempt.bind_eq_ok_iff.1 ht
  exact ordinary_constructor (TraitMaker.ordinary_of_ofElement h.traits hm) t ht

theorem run_of_trait (h : a.trait = .ok t) :
    run e a = ((a.call e t).1, (a.call e t).2.2) := by
  unfold run
  rw [h]

/-- Without a trait there is nothing to attach. -/
theorem run_of_error (h : a.trait = .error fault) : run e a = (e, .error fault) := by
  unfold run
  rw [h]

theorem withTrait_eq (e : Entity) (t : Trait) :
    e.withTrait t = (e.applyTrait t).2.2.map fun _ => (e.applyTrait t).1 := by
  unfold Entity.withTrait
  rcases e.applyTrait t with ⟨f, u, _ | _⟩ <;> rfl

theorem attach_of_error (h : a.trait = .error fault) : attach e a = .error fault := by
  cases a with
  | host t => cases h
  | constructor m => exact Attempt.bind_eq_error_iff.2 (.inl h)
  | layout l object c =>
      rcases Attempt.bind_eq_error_iff.1 h with h | ⟨m, hm, h⟩
      · exact Attempt.bind_eq_error_iff.2 (.inl h)
      · exact Attempt.bind_eq_error_iff.2 (.inr ⟨m, hm, Attempt.bind_eq_error_iff.2 (.inl h)⟩)

theorem attach_of_trait (h : a.trait = .ok t) :
    attach e a = (a.call e t).2.2.map fun _ => (a.call e t).1 := by
  have hthen {α : Type} {x : Except Fault α} {u : α} (hx : x = .ok u)
      (g : α → Except Fault Entity) : x >>= g = g u := by
    rw [hx]
    rfl
  cases a with
  | host u =>
      cases h
      exact withTrait_eq e t
  | constructor m => exact (hthen h _).trans (withTrait_eq e t)
  | layout l object c =>
      obtain ⟨m, hm, ht⟩ := Attempt.bind_eq_ok_iff.1 h
      refine ((hthen hm _).trans (hthen ht _)).trans ?_
      unfold call
      dsimp only
      split
      · rfl
      · exact withTrait_eq e t

/-- Whoever drops the entity has what the call leaves, or its fault. -/
theorem attach_eq (e : Entity) (a : Attachment) :
    attach e a = (run e a).2.map fun _ => (run e a).1 := by
  cases h : a.trait with
  | error fault =>
      rw [attach_of_error h, run_of_error h]
      rfl
  | ok t => rw [attach_of_trait h, run_of_trait h]

/-- One call: a trait that could be made is refused if its label is taken, and nothing changes, be
it of the entity or of the trait; otherwise it is attached as the last one, with the entity as its
host and with one handler for each of its conditions. -/
structure Settles (e : Entity) (a : Attachment) (t : Trait) : Prop where
  refused : t.label ∈ e.traits.map Trait.label →
    a.call e t = (e, t, .error (a.clash e t.label))
  attached : t.label ∉ e.traits.map Trait.label →
    ∃ f, a.call e t = (f, t.hostedBy e.number, .ok ()) ∧ f.number = e.number ∧
      f.traits = e.traits ++ [t.hostedBy e.number] ∧
      ∀ event, f.bus.bound event =
        e.bus.bound event ++ (t.conditions.filter (·.event = event)).map .spawn

/-- A trait whose label is taken is refused, whatever class it is of. -/
theorem call_of_taken (a : Attachment) (h : t.label ∈ e.traits.map Trait.label) :
    a.call e t = (e, t, .error (a.clash e t.label)) := by
  cases a with
  | host u => exact Entity.applyTrait_of_taken h
  | constructor m => exact Entity.applyTrait_of_taken h
  | layout l object c => exact if_pos ((Entity.isSome_trait?_iff e t.label).2 h)

/-- A trait with a new label is applied, whoever calls. -/
theorem call_of_new (a : Attachment) (h : t.label ∉ e.traits.map Trait.label) :
    a.call e t = e.applyTrait t := by
  cases a with
  | host u => rfl
  | constructor m => rfl
  | layout l object c =>
      exact if_neg fun htaken => h ((Entity.isSome_trait?_iff e t.label).1 htaken)

theorem exists_call_of_new (a : Attachment) (ht : t.kind.Ordinary)
    (h : t.label ∉ e.traits.map Trait.label) :
    ∃ f, a.call e t = (f, t.hostedBy e.number, .ok ()) ∧ e.Attached f [t] ∧
      f.bus = t.bindOn e.bus := by
  rw [call_of_new a h, Entity.applyTrait_of_new ht h]
  exact ⟨_, rfl, ⟨rfl, rfl⟩, rfl⟩

theorem settles (a : Attachment) (ht : t.kind.Ordinary) : Settles e a t := by
  refine ⟨call_of_taken a, fun hnew => ?_⟩
  obtain ⟨f, hf, hatt, hbus⟩ := exists_call_of_new a ht hnew
  refine ⟨f, hf, hatt.number, hatt.traits, fun event => ?_⟩
  rw [hbus, Trait.bindOn, Bus.bound_foldl_bind]

theorem keyed_next (he : e.Keyed) (ha : a.Ordinary) : (next e a).Keyed := by
  unfold next
  cases h : a.trait with
  | error fault =>
      rw [run_of_error h]
      exact he
  | ok t =>
      rw [run_of_trait h]
      by_cases hlabel : t.label ∈ e.traits.map Trait.label
      · rw [call_of_taken a hlabel]
        exact he
      · obtain ⟨f, hf, hatt, -⟩ := exists_call_of_new a (ha t h) hlabel
        rw [hf]
        exact he.append hlabel hatt

theorem keyed_foldl_next (he : e.Keyed) (calls : List Attachment)
    (hcalls : ∀ a ∈ calls, a.Ordinary) : (calls.foldl next e).Keyed := by
  induction calls generalizing e with
  | nil => exact he
  | cons a calls ih =>
      exact ih (keyed_next he (hcalls a List.mem_cons_self)) fun b hb =>
        hcalls b (List.mem_cons_of_mem a hb)

/-- Whatever has been attached to an entity, by whom and with what success, before it came on a
stage and got its number there and since, its traits have different labels, have the entity as their
host and are what their labels lead to. The next call fails as its trait does, if that cannot be
made, and nothing changes; it is refused if the label is taken, by a layout with the element at
fault, and neither the entity nor the trait changes; otherwise the trait comes last, with one
handler for each of its conditions. Whoever builds or places an entity has what the calls leave, or
the fault; on a stage nothing but the entity changes. -/
theorem keyed_of_calls {e : Entity} (he : e.traits = []) (before : List Attachment) (k : Nat)
    (since : List Attachment) (hcalls : ∀ a ∈ before ++ since, a.Ordinary) (a : Attachment)
    (ha : a.Ordinary) :
    let f := since.foldl next ((before.foldl next e).numbered k)
    f.Keyed ∧
      (match a.trait with
        | .error fault => run f a = (f, .error fault)
        | .ok t => run f a = ((a.call f t).1, (a.call f t).2.2) ∧ Settles f a t) ∧
      attach f a = (run f a).2.map (fun _ => (run f a).1) ∧
      ∀ (s : Stage) (n : Nat), s.entity n = f →
        Stage.Ends (Stage.change n (run · a)) s (run f a).2 (s.setEntity n (run f a).1) := by
  intro f
  obtain ⟨hbefore, hsince⟩ := List.forall_mem_append.1 hcalls
  have hkeyed := keyed_foldl_next (Entity.keyed_of_nil he) before hbefore
  refine ⟨keyed_foldl_next (hkeyed.numbered k) since hsince, ?_, attach_eq f a, fun s n hs => ?_⟩
  · split
    · exact run_of_error ‹_›
    · exact ⟨run_of_trait ‹_›, settles a (ha _ ‹_›)⟩
  · rw [← hs]
    exact ⟨rfl, rfl⟩

end Attachment

end

namespace Attachment

/-- A trait that spawns at two events. -/
def twoEggs : Trait :=
  { Trait.new .spawn with
    conditions := [⟨"hatch", .plain, {}⟩, ⟨"rest", .plain, {}⟩, ⟨"hatch", .plain, {}⟩] }

/-- A trait element of a layout. -/
def layoutSpawn : Cursor := .ofDocument ⟨⟨"trait", [("name", "spawn")], 4, []⟩, none⟩

open Bare in
theorem keyed_of_calls_nest :
    let f := [host (Trait.new .solid), host twoEggs].foldl next
      (([host twoEggs].foldl next {}).numbered 3)
    f.Keyed ∧ f.traits.map (fun t => (t.label, t.host)) = [("spawn", some 3), ("solid", some 3)] ∧
      ∃ t, trait (layout {} (some "nest") layoutSpawn) = .ok t ∧ t.host = none ∧
        (layout {} (some "nest") layoutSpawn).call f t =
          (f, t, .error (.defect (.traitRepeated "spawn" (some "nest")) layoutSpawn.element)) := by
  intro f
  have hcalls : ∀ a ∈ [host twoEggs] ++ [host (Trait.new .solid), host twoEggs], a.Ordinary := by
    rw [List.singleton_append]
    simp only [List.forall_mem_cons]
    exact ⟨ordinary_host (TraitClass.ordinary_builtIn .spawn),
      ordinary_host (TraitClass.ordinary_builtIn .solid),
      ordinary_host (TraitClass.ordinary_builtIn .spawn), by simp⟩
  obtain ⟨hkeyed, hcall, -⟩ := keyed_of_calls (e := {}) rfl _ 3 _ hcalls
    (layout {} (some "nest") layoutSpawn) (ordinary_layout Registrations.standard_of_nil _ _)
  have hlabels : f.traits.map (fun t => (t.label, t.host)) =
      [("spawn", some 3), ("solid", some 3)] := rfl
  have htaken : f.traits.map Trait.label = ["spawn", "solid"] := rfl
  refine ⟨hkeyed, hlabels, Trait.new .spawn, rfl, rfl, hcall.2.refused ?_⟩
  rw [htaken]
  exact List.mem_cons_self

end Attachment

end Stagecraft
