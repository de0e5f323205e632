import Mathlib.Data.List.Induction
import Stagecraft.Proofs.Flaws

/-!
# Items and their ids

The direct items of a pool are told apart by their ids before anything else is looked at. The first
item that cannot be told apart is what goes wrong, whatever else the document says and whatever is
loaded; if there is none, then nothing goes wrong with ids any more, and a pool that is compiled has
exactly these ids as its keys.
-/

namespace Stagecraft

open Markup

namespace Pool

/-- Items that are told apart by their ids. -/
structure Identified (items : List Cursor) : Prop where
  named : ∀ item ∈ items, ∃ id, item.get? "id" = some id ∧ id ≠ ""
  distinct : (items.map (·.get? "id")).Nodup

variable {tag : String} {found : Catalog Cursor}

theorem mem_keys_of_addItems {before : List Cursor}
    (h : before.foldlM (addItem tag) [] = .ok found) {id : String} :
    id ∈ found.keys ↔ ∃ item ∈ before, item.get? "id" = some id := by
  obtain ⟨-, more, rfl, hmore⟩ := addItems_eq_ok Catalog.nodup_keys_nil h
  constructor
  · intro hid
    obtain ⟨e, he, rfl⟩ := List.mem_map.1 hid
    obtain ⟨item, hitem, hget, -⟩ := Attempt.exists_mem_of_forall₂ hmore he
    exact ⟨item, hitem, hget⟩
  · rintro ⟨item, hitem, hget⟩
    obtain ⟨e, he, hkey, -⟩ := Attempt.exists_mem_of_forall₂_left hmore hitem
    cases hget.symm.trans hkey
    exact List.mem_map_of_mem he

theorem addItem_of_unnamed {item : Cursor} (h : (item.get? "id").filter (· ≠ "") = none) :
    addItem tag found item = .error (.defect (.itemId tag) item.element) := by
  unfold addItem
  rw [h]

theorem addItem_of_named {item : Cursor} {id : String} (hid : item.get? "id" = some id)
    (hne : id ≠ "") :
    addItem tag found item =
      if found.has id then .error (.duplicateId id item.element) else .ok (found.put id item) := by
  have hfilter : (item.get? "id").filter (· ≠ "") = some id := by simp [hid, hne]
  unfold addItem
  rw [hfilter]

theorem exists_addItems (tag : String) {items : List Cursor} (h : Identified items) :
    ∃ found, items.foldlM (addItem tag) [] = .ok found := by
  -- The induction is from the end, where the next item meets all ids that were found before it.
  induction items using List.reverseRecOn with
  | nil => exact ⟨[], rfl⟩
  | append_singleton before item ih =>
      obtain ⟨hnamed, hdistinct⟩ := h
      rw [List.map_append, List.nodup_append] at hdistinct
      obtain ⟨hbefore, -, hnew⟩ := hdistinct
      obtain ⟨found, hfound⟩ := ih ⟨fun d hd => hnamed d (List.mem_append_left _ hd), hbefore⟩
      obtain ⟨id, hid, hne⟩ := hnamed item (List.mem_append_right _ (List.mem_singleton_self item))
      have hhas : found.has id = false := by
        rw [← Bool.not_eq_true, Catalog.has_iff_mem_keys, mem_keys_of_addItems hfound]
        rintro ⟨d, hd, hget⟩
        exact hnew _ (List.mem_map_of_mem hd) _ (List.mem_singleton_self _) (hget.trans hid.symm)
      refine ⟨found.put id item, ?_⟩
      rw [List.foldlM_append, hfound]
      change (addItem tag found item >>= pure) = _
      rw [addItem_of_named hid hne, hhas]
      rfl

section

variable [Application] {l : Loader} {c : Cursor}

theorem run_of_items_eq_error {f : Fault} (h : items c = .error f) :
    (ofElement l c).run.1 = .error f := by
  change (compile l c _).result = .error f
  unfold compile
  rw [h]
  exact Timed.bind_eq_error_iff.2 (.inl rfl)

/-- Once its items are told apart, nothing goes wrong with ids in a pool. -/
theorem failsIn_of_identified (happ : Application.Discreet)
    (h : Identified (c.childrenTagged (itemTag c))) :
    Timed.FailsIn (fun f => ∀ id place, f ≠ .duplicateId id place) (ofElement l c) := by
  have hdistinct {P : Fault → Prop} (hP : ∀ f, P f → f.isLocal = true) (f : Fault)
      (hf : f.SingleOr P) : ∀ id place, f ≠ .duplicateId id place := by
    rintro id place rfl
    rcases hf with hf | hf
    · cases hf
    · cases hP _ hf
  obtain ⟨found, hfound⟩ := exists_addItems (itemTag c) h
  refine failsIn_parts ?_ (fun m => (failsIn_atlas m).mono (hdistinct fun _ => Flaw.isLocal)) ?_
  · unfold items
    rw [hfound]
    exact .ok found
  · intro item _ a m
    exact (Blueprint.failsIn_ofElement a (fun _ => Blueprint.Flaw.isLocal)
      (fun _ font _ s => happ.typeset font s) (TraitMaker.local_declared happ l.host item) m).mono
        (hdistinct fun _ hf => hf)

/-- The first item without an id of its own is what goes wrong with a pool. If there is none, no
other id is found twice, unless the application claims so, and the keys of the pool are the ids of
its items, in their order. -/
theorem ids_of_items (l : Loader) (c : Cursor) :
    let items := c.childrenTagged (itemTag c)
    let outcome := (ofElement l c).run.1
    (∀ before item after, items = before ++ item :: after → Identified before →
      ((item.get? "id").filter (· ≠ "") = none →
        outcome = .error (.defect (.itemId (itemTag c)) item.element)) ∧
      ∀ id, item.get? "id" = some id → id ≠ "" → (∃ d ∈ before, d.get? "id" = some id) →
        outcome = .error (.duplicateId id item.element)) ∧
    (Identified items →
      (Application.Discreet → ∀ id place, outcome ≠ .error (.duplicateId id place)) ∧
      ∀ pool, outcome = .ok pool →
        List.Forall₂ (fun item e => item.get? "id" = some e.1 ∧ e.2.place = item ∧
          e.2.blueprint.id = e.1) items pool) := by
  intro items outcome
  constructor
  · intro before item after hitems hbefore
    obtain ⟨found, hfound⟩ := exists_addItems (itemTag c) hbefore
    have hrun (f : Fault) (h : addItem (itemTag c) found item = .error f) : outcome = .error f := by
      apply run_of_items_eq_error
      unfold Pool.items
      change items.foldlM _ _ = _
      rw [hitems]
      exact Attempt.foldlM_of_first_error hfound h
    constructor
    · intro hid
      exact hrun _ (addItem_of_unnamed hid)
    · intro id hid hne hrepeated
      apply hrun
      have hhas : found.has id = true :=
        Catalog.has_iff_mem_keys.2 ((mem_keys_of_addItems hfound).2 hrepeated)
      rw [addItem_of_named hid hne, hhas]
      rfl
  · intro hidentified
    constructor
    · intro happ id place h
      exact failsIn_of_identified happ hidentified _ _ h id place rfl
    · intro pool hpool
      obtain ⟨a, -, -, hcompiles⟩ := compile_eq_ok hpool
      refine hcompiles.imp fun item e he => ⟨he.id, he.place, ?_⟩
      rw [he.reads.id, he.id]
      rfl

end

/-- A pool whose last item has the id of the first, and whose first one has an item inside. -/
def echo : Cursor :=
  .ofDocument
    ⟨⟨"entities", [], 1,
      [.element "entity" [("id", "call")] 1 [.element "entity" [("id", "wall")] 1 []],
        .element "entity" [("id", "wall")] 2 [], .element "entity" [("id", "call")] 3 []]⟩, none⟩

open Bare in
theorem ids_of_items_echo :
    (ofElement {} echo).run.1 =
      .error (.duplicateId "call" ⟨"entity", [("id", "call")], 3, []⟩) := by
  let item (n : Nat) : Cursor := (echo.child? n).getD echo
  have hbefore : Identified [item 0, item 1] := by
    constructor
    · intro d hd
      rcases List.mem_pair.1 hd with rfl | rfl
      · exact ⟨"call", rfl, by decide⟩
      · exact ⟨"wall", rfl, by decide⟩
    · decide
  have hfirst := ((ids_of_items {} echo).1 [item 0, item 1] (item 2) [] rfl hbefore).2
  exact hfirst "call" rfl (by decide) ⟨item 0, List.mem_cons_self, rfl⟩

end Pool

end Stagecraft
