import Stagecraft.Proofs.Building
import Stagecraft.Proofs.Pools

/-!
# Constructors

A pool that is compiled hands out blueprints, from which instances are built later on and as often
as is wanted. With nothing registered, two things may still go wrong then which the compilation has
not looked at: traits with the same label, and negative quads that count beyond the first face of
the plane.
-/

namespace Stagecraft

open Markup

namespace TraitMaker

theorem eq_of_map_hyphen {cs ds : List Char}
    (h : cs.map (fun c => if c = '-' then '_' else c) = ds) (hds : '_' ∉ ds) : cs = ds := by
  induction cs generalizing ds with
  | nil => exact h
  | cons c cs ih =>
      subst h
      rw [List.map_cons, List.mem_cons, not_or] at hds
      obtain ⟨hc, hcs⟩ := hds
      have hhyphen : c ≠ '-' := by
        rintro rfl
        exact hc rfl
      rw [List.map_cons, if_neg hhyphen, ← ih rfl hcs]

theorem eq_spawn_of_fieldName {name : String} (h : fieldName name = "spawn") : name = "spawn" := by
  have hlist : name.toList.map (fun c => if c = '-' then '_' else c) = "spawn".toList := by
    have := congrArg String.toList h
    simpa [fieldName] using this
  have := eq_of_map_hyphen hlist (by decide)
  exact String.ext_iff.2 this

theorem not_conditions_of_door {c : Cursor} {found : List Customization} (h : door c = .ok found)
    (cs : List SpawnCondition) : .conditions cs ∉ found := by
  unfold door at h
  split at h
  · cases h
    exact List.not_mem_nil
  · obtain ⟨v, -, h⟩ := Attempt.bind_eq_ok_iff.1 h
    cases h
    simp

theorem not_conditions_of_solid {c : Cursor} {found : List Customization}
    (h : solid c = .ok found) (cs : List SpawnCondition) : .conditions cs ∉ found := by
  unfold solid at h
  split at h
  · cases h
    exact List.not_mem_nil
  · dsimp only at h
    split at h
    · cases h
      simp
    · cases h

theorem items_of_spawn {host : Option Registrations} {c : Cursor} {found : List Customization}
    (h : spawn host c = .ok found) {cs : List SpawnCondition} (hcs : .conditions cs ∈ found)
    (hne : cs ≠ []) : c.childrenTagged "item" ≠ [] := by
  unfold spawn at h
  split at h
  · cases h
  · obtain ⟨ds, hds, h⟩ := Attempt.bind_eq_ok_iff.1 h
    cases h
    rw [List.mem_singleton, Customization.conditions.injEq] at hcs
    subst hcs
    rintro hnil
    rw [hnil] at hds
    cases hds
    exact hne rfl

/-- Of the structured content, only that of spawning has conditions, one for each item. -/
theorem spawn_of_conditions {host : Option Registrations} {name : String} {c : Cursor}
    {found : List Customization} (h : structured host name c = .ok found)
    {cs : List SpawnCondition} (hcs : .conditions cs ∈ found) :
    name = "spawn" ∧ (cs ≠ [] → c.childrenTagged "item" ≠ []) := by
  unfold structured at h
  split at h
  · exact absurd hcs (not_conditions_of_door h cs)
  · exact absurd hcs (not_conditions_of_solid h cs)
  · rename_i hname
    exact ⟨eq_spawn_of_fieldName hname, items_of_spawn h hcs⟩
  · cases h
    cases hcs

/-- The elements that describe the traits of an entity. -/
def sources (c : Cursor) : List Cursor := c.inside "traits" "trait"

/-- What is resolved is either registered or built in. -/
theorem resolve_eq_ok {host : Registrations} {name : String} {c : Cursor} {base : TraitClass}
    (h : resolve (some host) name c = .ok base) :
    host.traits.get? name = some base ∨
      ∃ kind, TraitKind.ofName? name = some kind ∧ base = .builtIn kind := by
  unfold resolve at h
  split at h
  · rename_i k hk
    cases h
    exact .inl hk
  · split at h
    · rename_i kind hkind
      cases h
      exact .inr ⟨kind, hkind, rfl⟩
    · cases h

variable [Application]

/-- A class that is registered for a trait element is ordinary, and its traits take what the element
spawns. -/
def Suits (host : Registrations) (c : Cursor) : Prop :=
  ∀ name k, nameOf c = some name → host.traits.get? name = some k →
    k.Ordinary ∧ (name = "spawn" → c.childrenTagged "item" ≠ [] → k.TakesConditions)

/-- The classes that are registered for the traits of an entity suit it. -/
def SuitsAll (host : Registrations) (item : Cursor) : Prop := ∀ c ∈ sources item, Suits host c

theorem suits_of_unregistered {host : Registrations} {c : Cursor}
    (h : ∀ name, nameOf c = some name → host.traits.get? name = none) : Suits host c :=
  fun name k hname hk => by
    rw [h name hname] at hk
    cases hk

theorem resolve_of_ofElement {host : Registrations} {c : Cursor} {m : TraitMaker}
    (h : ofElement (some host) c = .ok m) : ∃ name, resolve (some host) name c = .ok m.base := by
  unfold ofElement at h
  obtain ⟨-, -, h⟩ := Attempt.bind_eq_ok_iff.1 h
  split at h
  · cases h
  · rename_i name hname
    obtain ⟨base, hbase, h⟩ := Attempt.bind_eq_ok_iff.1 h
    obtain ⟨template, -, h⟩ := Attempt.bind_eq_ok_iff.1 h
    obtain ⟨properties, -, h⟩ := Attempt.bind_eq_ok_iff.1 h
    obtain ⟨customizations, -, h⟩ := Attempt.bind_eq_ok_iff.1 h
    cases h
    exact ⟨name, hbase⟩

/-- What is read from a trait element makes traits. -/
theorem ready_of_ofElement {host : Registrations} {c : Cursor} {m : TraitMaker}
    (hsuits : Suits host c) (h : ofElement (some host) c = .ok m) : m.Ready := by
  unfold ofElement at h
  obtain ⟨-, -, h⟩ := Attempt.bind_eq_ok_iff.1 h
  split at h
  · cases h
  · rename_i name hname
    obtain ⟨base, hbase, h⟩ := Attempt.bind_eq_ok_iff.1 h
    obtain ⟨template, htemplate, h⟩ := Attempt.bind_eq_ok_iff.1 h
    obtain ⟨properties, -, h⟩ := Attempt.bind_eq_ok_iff.1 h
    obtain ⟨customizations, hcust, h⟩ := Attempt.bind_eq_ok_iff.1 h
    cases h
    rcases resolve_eq_ok hbase with hk | ⟨kind, hkind, rfl⟩
    · obtain ⟨hordinary, htakes⟩ := hsuits name base hname hk
      refine ready_of_takesConditions hordinary ⟨template, htemplate⟩ fun cs hcs hne => ?_
      obtain ⟨hspawn, hitems⟩ := spawn_of_conditions hcust hcs
      exact htakes hspawn (hitems hne)
    · refine ready_of_takesConditions (TraitClass.ordinary_builtIn kind) ⟨template, htemplate⟩
        fun cs hcs _ => ?_
      obtain ⟨rfl, -⟩ := spawn_of_conditions hcust hcs
      obtain rfl : TraitKind.spawn = kind := Option.some.inj (by rw [← hkind]; decide)
      exact TraitClass.takesConditions_spawn

theorem forall₂_of_declared {host : Registrations} {c : Cursor} {ms : List TraitMaker}
    (h : declared c "traits" (allOf (some host)) = .ok ms) :
    List.Forall₂ (fun d m => ofElement (some host) d = .ok m) (sources c) ms :=
  Stagecraft.forall₂_of_declared (fun _ _ => Attempt.mapM_eq_ok_iff.1) h

theorem ready_of_declared {host : Registrations} {c : Cursor} {ms : List TraitMaker}
    (hsuits : SuitsAll host c) (h : declared c "traits" (allOf (some host)) = .ok ms) :
    ∀ m ∈ ms, m.Ready := by
  intro m hm
  obtain ⟨d, hmem, hd⟩ := Attempt.exists_mem_of_forall₂ (forall₂_of_declared h) hm
  exact ready_of_ofElement (hsuits d hmem) hd

theorem ordinary_of_ofElement {host : Registrations}
    (hhost : ∀ name k, host.traits.get? name = some k → k.Ordinary) {c : Cursor} {m : TraitMaker}
    (h : ofElement (some host) c = .ok m) : m.base.Ordinary := by
  obtain ⟨name, hbase⟩ := resolve_of_ofElement h
  rcases resolve_eq_ok hbase with hk | ⟨kind, -, hkind⟩
  · exact hhost name m.base hk
  · rw [hkind]
    exact TraitClass.ordinary_builtIn kind

end TraitMaker

/-- What is asked of the classes that an application registers, where it matters what they do: that
traits are ordinary, and that entities are blank. -/
structure Registrations.Standard [Application] (host : Registrations) : Prop where
  traits : ∀ name k, host.traits.get? name = some k → k.Ordinary
  entities : ∀ name k, host.entities.get? name = some k → k.Blank

theorem Registrations.standard_of_nil [Application] : Standard {} := by
  constructor <;> rintro name k ⟨⟩

namespace Blueprint

/-- The class of an entity is either the plain one or registered. -/
theorem baseOf_eq_ok {host : Registrations} {c : Cursor} {base : EntityClass}
    (h : baseOf host c = .ok base) :
    base = .plain ∨ ∃ name, host.entities.get? name = some base := by
  unfold baseOf at h
  split at h
  · cases h
    exact .inl rfl
  · split at h
    · rename_i k hk
      cases h
      obtain ⟨name, -, hname⟩ := Option.bind_eq_some_iff.1 hk
      exact .inr ⟨name, hname⟩
    · cases h

section

variable [Application]

theorem base_of_reads {host : Registrations} (hhost : host.entities = []) {a : Atlas} {c : Cursor}
    {b : Blueprint} (h : Reads host a c b) : b.base = EntityClass.plain := by
  rcases baseOf_eq_ok h.base with hbase | ⟨name, hname⟩
  · exact hbase
  · rw [hhost] at hname
    cases hname

theorem standard_of_reads {host : Registrations} (hhost : host.Standard) {a : Atlas} {c : Cursor}
    {b : Blueprint} (h : Reads host a c b) : b.Standard := by
  refine ⟨?_, fun m hm => ?_⟩
  · rcases baseOf_eq_ok h.base with hbase | ⟨name, hname⟩
    · rw [hbase]
      exact EntityClass.blank_plain
    · exact hhost.entities name b.base hname
  · obtain ⟨d, -, hd⟩ := Attempt.exists_mem_of_forall₂ (TraitMaker.forall₂_of_declared h.traits) hm
    exact TraitMaker.ordinary_of_ofElement hhost.traits hd

theorem standard_of_ofElement {l : Loader} (hhost : l.host.Standard) {c : Cursor} {pool : Pool}
    (hpool : (Pool.ofElement l c).run.1 = .ok pool) {id : String} {entry : Entry}
    (hentry : pool.get? id = some entry) : entry.blueprint.Standard := by
  obtain ⟨a, -, -, hentries⟩ := Pool.compile_eq_ok hpool
  obtain ⟨item, -, hitem⟩ := Attempt.exists_mem_of_forall₂ hentries (Catalog.mem_of_get? hentry)
  exact standard_of_reads hhost hitem.reads

/-- A blueprint of an entity of the plain class, whose traits can all be made. -/
structure Plain (b : Blueprint) (id : String) : Prop where
  id : b.id = id
  base : b.base = EntityClass.plain
  ready : ∀ m ∈ b.traits, m.Ready

/-- With nothing registered, all entries of a compiled pool are plain. -/
theorem plain_of_compile {l : Loader} {c : Cursor} {pool : Pool} {s : Start}
    (hhost : l.host = {}) (hpool : (Pool.compile l c s).result = .ok pool) {id : String}
    {entry : Entry} (hentry : (id, entry) ∈ pool) : entry.blueprint.Plain id := by
  obtain ⟨a, -, -, hentries⟩ := Pool.compile_eq_ok hpool
  obtain ⟨item, -, hitem⟩ := Attempt.exists_mem_of_forall₂ hentries hentry
  have hreads : Reads {} a item entry.blueprint := hhost ▸ hitem.reads
  refine ⟨?_, base_of_reads rfl hreads,
    TraitMaker.ready_of_declared (fun _ _ => TraitMaker.suits_of_unregistered fun _ _ => rfl)
      hreads.traits⟩
  rw [hreads.id, hitem.id]
  rfl

/-- Instances can be built from a blueprint, as many as are wanted and all of them equal. -/
def Constructible (b : Blueprint) : Prop :=
  ∃ e, ∀ n, (List.replicate n b).mapM build = .ok (List.replicate n e)

theorem constructible_iff (b : Blueprint) : b.Constructible ↔ ∃ e, b.build = .ok e := by
  constructor
  · rintro ⟨e, he⟩
    obtain ⟨f, hf, h⟩ := Attempt.bind_eq_ok_iff.1 (he 1)
    exact ⟨f, hf⟩
  · rintro ⟨e, he⟩
    exact ⟨e, Attempt.mapM_replicate he⟩

/-- With nothing registered, a compiled entity can be built whenever it is wanted if and only if its
traits have different labels and its plane takes every quad that its animators draw on. -/
theorem constructible_iff_buildable {l : Loader} {c : Cursor} {pool : Pool} (hhost : l.host = {})
    (hpool : (Pool.ofElement l c).run.1 = .ok pool) {id : String} {entry : Entry}
    (hentry : (id, entry) ∈ pool) :
    (entry.blueprint.Constructible ↔ entry.blueprint.Buildable) ∧
      (¬ entry.blueprint.Buildable → entry.blueprint.build = .error .indexRange ∨
        ∃ label, entry.blueprint.build = .error (.traitTaken label (some id))) := by
  obtain ⟨rfl, hbase, hready⟩ := plain_of_compile hhost hpool hentry
  have hfail := fun hb => build_of_not_buildable hbase hready hb
  refine ⟨(constructible_iff _).trans ⟨?_, ?_⟩, hfail⟩
  · rintro ⟨e, he⟩
    by_contra hb
    rcases hfail hb with h | ⟨_, h⟩
    · cases he.symm.trans h
    · cases he.symm.trans h
  · intro hb
    obtain ⟨_, e, he, -⟩ := build_of_buildable hbase hready hb
    exact ⟨e, he⟩

end

/-- A pool of one entity, which has the same trait twice. -/
def twins : Cursor :=
  .ofDocument
    ⟨⟨"entities", [], 1, [.element "entity" [("id", "a")] 1 [.element "traits" [] 1
      [.element "trait" [("name", "solid")] 1 [], .element "trait" [("name", "solid")] 1 []]]]⟩,
      none⟩

open Bare in
theorem constructible_iff_buildable_twins :
    ∃ pool entry, (Pool.ofElement {} twins).run.1 = .ok pool ∧ ("a", entry) ∈ pool ∧
      (entry.blueprint.Constructible ↔ entry.blueprint.Buildable) := by
  have hkeys : (Pool.ofElement {} twins).run.1.toOption.map Catalog.keys = some ["a"] := by
    decide +kernel
  cases hpool : (Pool.ofElement {} twins).run.1 with
  | error f =>
      rw [hpool] at hkeys
      cases hkeys
  | ok pool =>
      rw [hpool] at hkeys
      have hmem : "a" ∈ pool.keys := by
        rw [Option.some.inj hkeys]
        exact List.mem_singleton_self "a"
      obtain ⟨⟨_, entry⟩, hentry, rfl⟩ := List.mem_map.1 hmem
      exact ⟨pool, entry, rfl, hentry, (constructible_iff_buildable rfl hpool hentry).1⟩

open Bare in
/-- A pool may be compiled whose entity cannot be built. -/
theorem not_constructible_of_compiled :
    ¬ ∀ (l : Loader) (c : Cursor) (pool : Pool), l.host = {} →
        (Pool.ofElement l c).run.1 = .ok pool →
        ∀ entry ∈ pool, entry.2.blueprint.Constructible := by
  intro hall
  have hbuilt : ((Pool.ofElement {} twins).run.1.toOption.map fun pool =>
      pool.all fun entry => entry.2.blueprint.build.toOption.isSome) = some false := by
    decide +kernel
  cases hpool : (Pool.ofElement {} twins).run.1 with
  | error f =>
      rw [hpool] at hbuilt
      cases hbuilt
  | ok pool =>
      rw [hpool] at hbuilt
      have hone := Option.some.inj hbuilt
      rw [List.all_eq_false] at hone
      obtain ⟨entry, hentry, hfail⟩ := hone
      obtain ⟨e, he⟩ := (constructible_iff _).1 (hall {} twins pool rfl hpool entry hentry)
      simp [he, Except.toOption] at hfail

end Blueprint

end Stagecraft
