import Stagecraft.Proofs.Pools
import Stagecraft.Stage.Draft

/-!
# Pools that overlap

A scene may take its objects from several pools with ids in common. Documents and pools are loaded
side by side, in any order, but are put together in document order, so that of the entries with one
id the last one counts.
-/

namespace Stagecraft

open Markup

namespace SceneDraft

variable {l : Loader} {c : Cursor} {s : Start}

theorem merge_result (all pool : Pool) (s : Start) :
    (merge all pool s).result = .ok (all.putAll pool) := by
  have hnever : Timed.FailsIn (fun _ => False) (merge all pool) := by
    refine Timed.FailsIn.bind (.forIn fun e _ _ => ?_) fun _ _ _ => .pure _
    split
    · exact (Timed.FailsIn.notice _).bind fun _ _ _ => .pure _
    · exact .pure _
  cases h : (merge all pool s).result with
  | error f => exact (hnever s f h).elim
  | ok both =>
      obtain ⟨_, -, h⟩ := Timed.bind_eq_ok_iff.1 h
      exact h.symm

theorem foldlM_merge_result (pools : List Pool) (all : Pool) (s : Start) :
    (pools.foldlM merge all s).result = .ok (pools.foldl Catalog.putAll all) := by
  induction pools generalizing all s with
  | nil => rfl
  | cons pool pools ih =>
      rw [List.foldlM_cons, Timed.bind_result, merge_result]
      exact ih _ _

theorem forIn_check_eq_ok_iff {roots : List Cursor} {u : PUnit} :
    ((forIn roots u fun root _ => do
        liftM (Pool.check root)
        pure (.yield PUnit.unit) : Timed PUnit) s).result = .ok PUnit.unit ↔
      ∀ root ∈ roots, Pool.check root = .ok () := by
  induction roots generalizing s u with
  | nil => simp
  | cons root roots ih =>
      rw [List.forIn_cons, List.forall_mem_cons, Timed.bind_result, Timed.bind_result]
      cases h : Pool.check root with
      | error f => simp
      | ok _ => simp [ih]

theorem steady_roots (l : Loader) (cs : List Cursor) : ∀ w ∈ cs.map l.follow, w.Steady := by
  intro w hw
  obtain ⟨o, -, rfl⟩ := List.mem_map.1 hw
  exact l.steady_follow o

variable [Application]

theorem steady_pools (l : Loader) (roots : List Cursor) :
    ∀ w ∈ roots.map (Pool.ofElement l), w.Steady := by
  intro w hw
  obtain ⟨root, -, rfl⟩ := List.mem_map.1 hw
  exact Pool.steady_ofElement l root

/-- The pool that an element leads to: it is read from the element itself or from the document that
the element refers to. -/
def LeadsTo (l : Loader) (o : Cursor) (pool : Pool) : Prop :=
  ∃ root, (l.follow o).run.1 = .ok root ∧ Pool.check root = .ok () ∧
    (Pool.ofElement l root).run.1 = .ok pool

theorem LeadsTo.nodup {o : Cursor} {pool : Pool} (h : LeadsTo l o pool) : pool.keys.Nodup := by
  obtain ⟨root, -, -, hpool⟩ := h
  obtain ⟨_, -, hnodup, -⟩ := Pool.compile_eq_ok hpool
  exact hnodup

/-- The objects of a scene are the entries of its pools, put together in document order. -/
theorem objects_eq_ok_iff {registry : Pool} :
    (objects l c s).result = .ok registry ↔
      ∃ pools, List.Forall₂ (LeadsTo l) (c.childrenTagged "objects") pools ∧
        registry = pools.foldl Catalog.putAll [] := by
  constructor
  · intro h
    obtain ⟨roots, hroots, h⟩ := Timed.bind_eq_ok_iff.1 h
    obtain ⟨_, hcheck, h⟩ := Timed.bind_eq_ok_iff.1 h
    obtain ⟨pools, hpools, h⟩ := Timed.bind_eq_ok_iff.1 h
    rw [Timed.Steady.gather_eq_ok_iff (steady_roots l _), List.forall₂_map_left_iff] at hroots
    rw [Timed.Steady.gather_eq_ok_iff (steady_pools l roots), List.forall₂_map_left_iff] at hpools
    rw [forIn_check_eq_ok_iff] at hcheck
    rw [foldlM_merge_result] at h
    cases h
    have hguarded := (List.forall₂_and_left _ _).2 ⟨hcheck, hpools⟩
    refine ⟨pools, Attempt.forall₂_comp hroots hguarded ?_, rfl⟩
    intro o root pool hroot hpool
    exact ⟨root, hroot, hpool.1, hpool.2⟩
  · rintro ⟨pools, hpools, rfl⟩
    obtain ⟨roots, hroots, hpools⟩ := Attempt.exists_between_of_forall₂ hpools
    obtain ⟨hcheck, hpools⟩ := (List.forall₂_and_left _ _).1 hpools
    refine Timed.bind_eq_ok_iff.2 ⟨roots, ?_, Timed.bind_eq_ok_iff.2 ⟨.unit, ?_, ?_⟩⟩
    · rw [Timed.Steady.gather_eq_ok_iff (steady_roots l _), List.forall₂_map_left_iff]
      exact hroots
    · exact forIn_check_eq_ok_iff.2 hcheck
    · refine Timed.bind_eq_ok_iff.2 ⟨pools, ?_, foldlM_merge_result pools [] _⟩
      rw [Timed.Steady.gather_eq_ok_iff (steady_pools l roots), List.forall₂_map_left_iff]
      exact hpools

theorem steady_objects (l : Loader) (c : Cursor) : (objects l c).Steady := by
  intro registry s t h
  exact objects_eq_ok_iff.2 (objects_eq_ok_iff.1 h)

/-- Of the pools with an id, the last one in document order gives the entry. -/
theorem get?_of_objects {pools : List Pool}
    (hpools : List.Forall₂ (LeadsTo l) (c.childrenTagged "objects") pools) (id : String) :
    Catalog.get? (pools.foldl Catalog.putAll []) id =
      (pools.filterMap (Catalog.get? · id)).getLast? := by
  rw [Catalog.get?_foldl_putAll, Catalog.get?_nil, Option.or_none]
  intro pool hpool
  obtain ⟨o, -, ho⟩ := Attempt.exists_mem_of_forall₂ hpools hpool
  exact ho.nodup

theorem mem_keys_of_objects {pools : List Pool}
    (hpools : List.Forall₂ (LeadsTo l) (c.childrenTagged "objects") pools) (id : String) :
    id ∈ Catalog.keys (pools.foldl Catalog.putAll []) ↔ ∃ pool ∈ pools, id ∈ pool.keys := by
  simp only [← Catalog.has_iff_mem_keys, Catalog.has, get?_of_objects hpools,
    Option.isSome_iff_ne_none, Ne, List.getLast?_eq_none_iff, List.filterMap_eq_nil_iff, not_forall,
    exists_prop]

/-- Every entry of the objects of a scene was compiled from an item of one of its pools. -/
theorem exists_of_objects {registry : Pool} (h : (objects l c s).result = .ok registry)
    {id : String} {entry : Entry} (hentry : registry.get? id = some entry) :
    ∃ o ∈ c.childrenTagged "objects", ∃ pool, LeadsTo l o pool ∧ (id, entry) ∈ pool := by
  obtain ⟨pools, hpools, rfl⟩ := objects_eq_ok_iff.1 h
  rw [get?_of_objects hpools] at hentry
  obtain ⟨pool, hpool, hget⟩ := List.mem_filterMap.1 (List.mem_of_getLast? hentry)
  obtain ⟨o, ho, hleads⟩ := Attempt.exists_mem_of_forall₂ hpools hpool
  exact ⟨o, ho, pool, hleads, Catalog.mem_of_get? hget⟩

end SceneDraft

end Stagecraft
