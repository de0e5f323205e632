import Mathlib.Data.List.Induction
import Stagecraft.Proofs.Catalogs
import Stagecraft.Proofs.Reactions

/-!
# Filling traits

The attributes of a trait element go to the fields of the traits that it makes. Of the attributes
that are read as the same field the last one counts, and only fields that a fresh trait has, with a
single value in them, can be filled. What doors, solids and spawners read besides is put in
afterwards. Both come down to a statement about each field of a fresh trait: it has been filled, it
has been set by structured content, or it is as it was.
-/

namespace Stagecraft

open Markup

namespace Catalog

variable {α : Type}

theorem get?_putAll_of_nodup (m : Catalog α) {entries : Catalog α} (h : entries.keys.Nodup)
    (key : String) : (m.putAll entries).get? key = (entries.get? key).or (m.get? key) := by
  rw [get?_putAll, getLast?_filter_of_nodup h]

theorem keys_put_of_mem {m : Catalog α} {key : String} (h : key ∈ m.keys) (a : α) :
    (m.put key a).keys = m.keys := by
  rw [keys_put, if_pos h]

/-- Entries for keys that are there add no key. -/
theorem keys_putAll_of_subset {m : Catalog α} {entries : Catalog α}
    (h : ∀ key ∈ entries.keys, key ∈ m.keys) : (m.putAll entries).keys = m.keys := by
  induction entries generalizing m with
  | nil => rfl
  | cons e entries ih =>
      have hput : (m.put e.1 e.2).keys = m.keys := keys_put_of_mem (h e.1 List.mem_cons_self) e.2
      have hrest : ((m.put e.1 e.2).putAll entries).keys = (m.put e.1 e.2).keys :=
        ih fun key hkey => hput ▸ h key (List.mem_cons_of_mem _ hkey)
      exact hrest.trans hput

end Catalog

namespace SpawnCondition

/-- An item describes a condition: its event, what is registered for its object, as something to be
called, and the place that its first offset element gives, if there is one. -/
structure DescribedBy (host : Registrations) (item : Cursor) (k : SpawnCondition) : Prop where
  event : item.get? "event" = some k.event
  constructor : ∃ object found, item.get? "object" = some object ∧
    host.object object item.element = .ok found ∧ k.constructor = found.asClass
  offset : match (item.childrenTagged "offset").head? with
    | none => k.offset = {}
    | some o => ∃ v, o.position? = .ok v ∧ k.offset = v.getD {}

end SpawnCondition

namespace TraitMaker

theorem describedBy_of_spawnItem {host : Registrations} {item : Cursor} {k : SpawnCondition}
    (h : spawnItem host item = .ok k) : k.DescribedBy host item := by
  unfold spawnItem at h
  split at h
  · rename_i event object hevent hobject
    obtain ⟨found, hfound, h⟩ := Attempt.bind_eq_ok_iff.1 h
    have hevent : item.get? "event" = some event := (Option.filter_eq_some_iff.1 hevent).1
    have hobject : item.get? "object" = some object := (Option.filter_eq_some_iff.1 hobject).1
    dsimp only at h
    split at h
    · rename_i hnone
      cases h
      exact ⟨hevent, ⟨object, found, hobject, hfound, rfl⟩, by rw [hnone]⟩
    · rename_i o hsome
      obtain ⟨v, hv, h⟩ := Attempt.bind_eq_ok_iff.1 h
      cases h
      exact ⟨hevent, ⟨object, found, hobject, hfound, rfl⟩, by rw [hsome]; exact ⟨v, hv, rfl⟩⟩
  · cases h

/-- The text that attributes have for a field. It is that of the last one which is read as the
field, apart from those that say which trait is meant. -/
def textFor? (attributes : List (String × String)) (f : String) : Option String :=
  (attributes.filter fun a => a.1 ∉ reserved ∧ fieldName a.1 = f).getLast?.map (·.2)

/-- A field with a single value as its default may be filled, if its name does not keep it from
being. -/
structure Fillable (f : String) (default : Value) : Prop where
  scalar : default.isSettable
  back : f ≠ "host"
  inner : f.toList.head? ≠ some '_'

theorem isSettable_iff (template : Trait) (f : String) :
    isSettable template f ↔ ∃ v, template.fields.get? f = some v ∧ Fillable f v := by
  cases hf : template.fields.get? f with
  | none => simp [isSettable, hf]
  | some v =>
      simp only [isSettable, hf, Option.map_some, Option.getD_some, Bool.and_eq_true,
        decide_eq_true_eq, Option.some.injEq, exists_eq_left']
      exact ⟨fun ⟨⟨hinner, hback⟩, hscalar⟩ => ⟨hscalar, hback, hinner⟩,
        fun h => ⟨⟨h.inner, h.back⟩, h.scalar⟩⟩

theorem textFor?_append_of_read {as : List (String × String)} {a : String × String}
    (h : a.1 ∉ reserved) : textFor? (as ++ [a]) (fieldName a.1) = some a.2 := by
  have hread : [a].filter (fun b => b.1 ∉ reserved ∧ fieldName b.1 = fieldName a.1) = [a] := by
    simp [h]
  rw [textFor?, List.filter_append, hread, List.getLast?_concat]
  rfl

theorem textFor?_append_of_not_read {as : List (String × String)} {a : String × String} {f : String}
    (h : a.1 ∈ reserved ∨ fieldName a.1 ≠ f) : textFor? (as ++ [a]) f = textFor? as f := by
  have hskip : [a].filter (fun b => b.1 ∉ reserved ∧ fieldName b.1 = f) = [] := by
    rw [List.filter_eq_nil_iff]
    intro b hb
    cases List.mem_singleton.1 hb
    rw [decide_eq_true_eq, not_and]
    exact fun hfree => h.resolve_left hfree
  rw [textFor?, List.filter_append, hskip, List.append_nil]
  rfl

/-- Attributes are passed over that say which trait is meant or are read as a field that cannot be
filled. -/
theorem skip_iff (template : Trait) (name : String) :
    (reserved.contains name || !isSettable template (fieldName name)) = true ↔
      name ∈ reserved ∨ isSettable template (fieldName name) = false := by
  rw [Bool.or_eq_true, List.contains_iff_mem, Bool.not_eq_true']

/-- The properties are the values of the texts for fields that can be filled. -/
theorem rel_of_propertiesOf {template : Trait} {attributes : List (String × String)}
    {ps : Catalog Value} (h : propertiesOf template attributes = .ok ps) (f : String) :
    Option.Rel (fun s w => parseValue s = .ok w)
      (if isSettable template f then textFor? attributes f else none) (ps.get? f) := by
  -- What an attribute does is seen best if it is the last one.
  induction attributes using List.reverseRecOn generalizing ps with
  | nil =>
      cases h
      simp only [textFor?, List.filter_nil, List.getLast?_nil, Option.map_none, ite_self]
      exact .none
  | append_singleton as a ih =>
      rw [propertiesOf, List.foldlM_append] at h
      obtain ⟨qs, hqs, h⟩ := Attempt.bind_eq_ok_iff.1 h
      rw [List.foldlM_cons] at h
      obtain ⟨rs, h, hrs⟩ := Attempt.bind_eq_ok_iff.1 h
      cases hrs
      have hbefore := ih hqs
      dsimp only at h
      split at h
      · rename_i hskip
        cases h
        rw [skip_iff] at hskip
        by_cases hf : fieldName a.1 = f
        · rcases hskip with hskip | hskip
          · rwa [textFor?_append_of_not_read (.inl hskip)]
          · -- Nothing is meant for a field that cannot be filled.
            rw [hf] at hskip
            simpa [hskip] using hbefore
        · rwa [textFor?_append_of_not_read (.inr hf)]
      · rename_i hread
        rw [skip_iff, not_or, Bool.not_eq_false] at hread
        obtain ⟨w, hw, rfl⟩ := Attempt.map_eq_ok_iff.1 h
        by_cases hf : fieldName a.1 = f
        · subst hf
          rw [if_pos hread.2, textFor?_append_of_read hread.1, Catalog.get?_put_self]
          exact .some hw
        · rw [textFor?_append_of_not_read (.inr hf), Catalog.get?_put_of_ne _ _ (Ne.symm hf)]
          exact hbefore

/-- A field that can be filled has the value of the text that is meant for it. -/
theorem exists_property {template : Trait} {attributes : List (String × String)}
    {ps : Catalog Value} (h : propertiesOf template attributes = .ok ps) {f s : String}
    (hf : isSettable template f) (hs : textFor? attributes f = some s) :
    ∃ w, parseValue s = .ok w ∧ ps.get? f = some w := by
  have hrel := rel_of_propertiesOf h f
  rw [if_pos hf, hs] at hrel
  generalize ps.get? f = o at hrel
  cases hrel with
  | some hw => exact ⟨_, hw, rfl⟩

theorem property_eq_none {template : Trait} {attributes : List (String × String)}
    {ps : Catalog Value} (h : propertiesOf template attributes = .ok ps) {f : String}
    (hf : ¬ (isSettable template f ∧ (textFor? attributes f).isSome)) : ps.get? f = none := by
  have hnone : (if isSettable template f then textFor? attributes f else none) = none := by
    split
    · rename_i hset
      exact Option.not_isSome_iff_eq_none.1 fun hs => hf ⟨hset, hs⟩
    · rfl
  have hrel := rel_of_propertiesOf h f
  rw [hnone] at hrel
  generalize ps.get? f = o at hrel
  cases hrel
  rfl

theorem keys_of_propertiesOf {template : Trait} {attributes : List (String × String)}
    {ps : Catalog Value} (h : propertiesOf template attributes = .ok ps) :
    ps.keys.Nodup ∧ ∀ f ∈ ps.keys, isSettable template f := by
  refine Attempt.foldlM_keeps
    (P := fun ps : Catalog Value => ps.keys.Nodup ∧ ∀ f ∈ ps.keys, isSettable template f)
    ⟨Catalog.nodup_keys_nil, by simp [Catalog.keys]⟩ ?_ h
  rintro qs a rs ⟨hnodup, hqs⟩ - h
  dsimp only at h
  split at h
  · cases h
    exact ⟨hnodup, hqs⟩
  · rename_i hread
    rw [skip_iff, not_or, Bool.not_eq_false] at hread
    obtain ⟨w, -, rfl⟩ := Attempt.map_eq_ok_iff.1 h
    refine ⟨Catalog.nodup_keys_put hnodup _ _, fun f hf => ?_⟩
    rcases Catalog.mem_keys_put.1 hf with hf | rfl
    · exact hqs f hf
    · exact hread.2

/-- The fields of a trait as the attributes of an element fill them, apart from those that have been
set otherwise. -/
structure Filled (kind : TraitKind) (c : Cursor) (set : List String) (fields : Catalog Value) :
    Prop where
  keys : fields.keys = kind.freshFields.keys
  filled : ∀ f v s, kind.freshFields.get? f = some v → Fillable f v →
    textFor? c.element.attributes f = some s → ∃ w, parseValue s = .ok w ∧ fields.get? f = some w
  kept : ∀ f v, kind.freshFields.get? f = some v → f ∉ set →
    ¬ (Fillable f v ∧ (textFor? c.element.attributes f).isSome) → fields.get? f = some v

theorem filled_of_propertiesOf {kind : TraitKind} {c : Cursor} {ps : Catalog Value}
    (h : propertiesOf (Trait.new kind) c.element.attributes = .ok ps) :
    Filled kind c [] (kind.freshFields.putAll ps) := by
  obtain ⟨hnodup, hsettable⟩ := keys_of_propertiesOf h
  refine ⟨?_, ?_, ?_⟩
  · refine Catalog.keys_putAll_of_subset fun f hf => ?_
    obtain ⟨v, hv, -⟩ := (isSettable_iff _ f).1 (hsettable f hf)
    exact List.mem_map.2 ⟨(f, v), Catalog.mem_of_get? hv, rfl⟩
  · intro f v s hv hfill hs
    obtain ⟨w, hw, hget⟩ := exists_property h ((isSettable_iff _ f).2 ⟨v, hv, hfill⟩) hs
    exact ⟨w, hw, by rw [Catalog.get?_putAll_of_nodup _ hnodup, hget]; rfl⟩
  · intro f v hv _ hnone
    have hget : ps.get? f = none := by
      apply property_eq_none h
      rintro ⟨hset, hs⟩
      obtain ⟨u, hu, hfill⟩ := (isSettable_iff _ f).1 hset
      cases hv.symm.trans hu
      exact hnone ⟨hfill, hs⟩
    rw [Catalog.get?_putAll_of_nodup _ hnodup, hget, Option.none_or]
    exact hv

/-- A field of several values may be set afterwards. -/
theorem Filled.put {kind : TraitKind} {c : Cursor} {fields : Catalog Value}
    (h : Filled kind c [] fields) {f : String} {v : Value}
    (hf : kind.freshFields.get? f = some v) (hv : v.isSettable = false)
    (w : Value) : Filled kind c [f] (fields.put f w) := by
  refine ⟨?_, ?_, ?_⟩
  · have hmem : f ∈ fields.keys := by
      rw [h.keys]
      exact List.mem_map.2 ⟨(f, v), Catalog.mem_of_get? hf, rfl⟩
    rw [Catalog.keys_put_of_mem hmem, h.keys]
  · intro g u s hg hfill hs
    have hne : g ≠ f := by
      rintro rfl
      cases hf.symm.trans hg
      exact Bool.false_ne_true (hv.symm.trans hfill.scalar)
    rw [Catalog.get?_put_of_ne _ _ hne]
    exact h.filled g u s hg hfill hs
  · intro g u hg hne hnone
    rw [Catalog.get?_put_of_ne _ _ (by simpa using hne)]
    exact h.kept g u hg List.not_mem_nil hnone

/-- The fields that structured content sets. -/
def contentFields (kind : TraitKind) (c : Cursor) : List String :=
  match kind with
  | .door => if (c.childrenTagged "direction").isEmpty then [] else ["direction"]
  | .solid => if (c.get? "attack").isNone then [] else ["attack_accept"]
  | _ => []

/-- A trait of a kind with what an element says and nothing else. Its fields are those of a fresh
trait, its attributes fill the ones that can be filled, a door has the direction and a solid the
sides that the element gives, and a spawner has one condition for each item. -/
structure FilledBy (host : Option Registrations) (c : Cursor) (kind : TraitKind) (t : Trait) :
    Prop where
  base : t.kind = .builtIn kind
  free : t.host = none
  fields : Filled kind c (contentFields kind c) t.fields
  direction : kind = .door → ∀ d ∈ (c.childrenTagged "direction").head?,
    ∃ v, d.vec2? "x" "y" = .ok v ∧ t.fields.get? "direction" = some (.vec2 (v.getD {}))
  surfaces : kind = .solid → ∀ attack ∈ c.get? "attack",
    t.fields.get? "attack_accept" = some (.list ((Text.words attack).map .text))
  conditions : if kind = .spawn then ∃ r, host = some r ∧
      List.Forall₂ (fun item k => k.DescribedBy r item) (c.childrenTagged "item") t.conditions
    else t.conditions = []

/-- The structured content that a kind of trait reads. -/
def contentOf (host : Option Registrations) (kind : TraitKind) (c : Cursor) :
    Except Fault (List Customization) :=
  match kind with
  | .door => door c
  | .solid => solid c
  | .spawn => spawn host c
  | _ => .ok []

theorem structured_of_ofName? {name : String} {kind : TraitKind}
    (h : TraitKind.ofName? name = some kind) (host : Option Registrations) (c : Cursor) :
    structured host name c = contentOf host kind c := by
  have hall : ∀ e ∈ TraitKind.all, structured host e.1 c = contentOf host e.2 c := by
    simp only [TraitKind.all, List.forall_mem_cons]
    repeat' apply And.intro rfl
    exact List.forall_mem_nil _
  obtain ⟨l, r, hall', -⟩ := List.lookup_eq_some_iff.1 h
  exact hall (name, kind) (by simp [hall'])

section

variable [Application]

/-- Spawners take conditions. -/
theorem foldlM_addCondition {t : Trait} (ht : t.kind = .builtIn .spawn)
    (cs : List SpawnCondition) :
    cs.foldlM Trait.addCondition t = .ok { t with conditions := t.conditions ++ cs } := by
  induction cs generalizing t with
  | nil => simp [pure, Except.pure]
  | cons c cs ih =>
      have hstep : t.addCondition c = .ok { t with conditions := t.conditions ++ [c] } := by
        simp [Trait.addCondition, ht, Trait.spawns, Trait.isKind]
      rw [List.foldlM_cons, hstep]
      refine (ih (t := { t with conditions := t.conditions ++ [c] }) ht).trans ?_
      simp

theorem filledBy_of_door {host : Option Registrations} {c : Cursor} {found : List Customization}
    {fields : Catalog Value} (hfields : Filled .door c [] fields) (h : door c = .ok found) :
    ∃ t, found.foldlM customize { kind := .builtIn .door, fields } = .ok t ∧
      FilledBy host c .door t := by
  unfold door at h
  split at h
  · rename_i hnone
    cases h
    refine ⟨_, rfl, rfl, rfl, ?_, ?_, nofun, rfl⟩
    · rwa [contentFields, List.head?_eq_none_iff.1 hnone]
    · simp [hnone]
  · rename_i d hd
    obtain ⟨v, hv, h⟩ := Attempt.bind_eq_ok_iff.1 h
    cases h
    have hdirection : (TraitKind.freshFields .door).get? "direction" =
        some (.vec2 ⟨0, 0⟩) := rfl
    refine ⟨_, rfl, rfl, rfl, ?_, ?_, nofun, rfl⟩
    · have hne : (c.childrenTagged "direction").isEmpty = false := by
        cases hc : c.childrenTagged "direction" with
        | nil => simp [hc] at hd
        | cons => rfl
      rw [contentFields, hne]
      exact hfields.put hdirection rfl _
    · rintro - e he
      cases hd.symm.trans he
      exact ⟨v, hv, Catalog.get?_put_self _ _ _⟩

theorem filledBy_of_solid {host : Option Registrations} {c : Cursor} {found : List Customization}
    {fields : Catalog Value} (hfields : Filled .solid c [] fields) (h : solid c = .ok found) :
    ∃ t, found.foldlM customize { kind := .builtIn .solid, fields } = .ok t ∧
      FilledBy host c .solid t := by
  unfold solid at h
  split at h
  · rename_i hnone
    cases h
    refine ⟨_, rfl, rfl, rfl, ?_, nofun, ?_, rfl⟩
    · rwa [contentFields, hnone]
    · simp [hnone]
  · rename_i attack hattack
    dsimp only at h
    split at h
    · cases h
      have hsides : (TraitKind.freshFields .solid).get? "attack_accept" =
          some (.list (surfaces.map .text)) := rfl
      refine ⟨_, rfl, rfl, rfl, ?_, nofun, ?_, rfl⟩
      · rw [contentFields, hattack]
        exact hfields.put hsides rfl _
      · rintro - a ha
        cases hattack.symm.trans ha
        exact Catalog.get?_put_self _ _ _
    · cases h

theorem filledBy_of_spawn {host : Option Registrations} {c : Cursor} {found : List Customization}
    {fields : Catalog Value} (hfields : Filled .spawn c [] fields) (h : spawn host c = .ok found) :
    ∃ t, found.foldlM customize { kind := .builtIn .spawn, fields } = .ok t ∧
      FilledBy host c .spawn t := by
  unfold spawn at h
  split at h
  · cases h
  · rename_i r
    obtain ⟨ks, hks, h⟩ := Attempt.bind_eq_ok_iff.1 h
    cases h
    have hmade := foldlM_addCondition (t := { kind := .builtIn .spawn, fields }) rfl ks
    refine ⟨_, Attempt.bind_eq_ok_iff.2 ⟨_, hmade, rfl⟩, rfl, rfl, hfields, nofun, nofun, ?_⟩
    rw [if_pos rfl]
    exact ⟨r, rfl, (Attempt.mapM_eq_ok_iff.1 hks).imp fun _ _ => describedBy_of_spawnItem⟩

/-- Structured content goes into the fields that attributes have been put into. -/
theorem filledBy_of_contentOf {host : Option Registrations} {kind : TraitKind} {c : Cursor}
    {found : List Customization} {fields : Catalog Value} (hfields : Filled kind c [] fields)
    (h : contentOf host kind c = .ok found) :
    ∃ t, found.foldlM customize { kind := .builtIn kind, fields } = .ok t ∧
      FilledBy host c kind t := by
  unfold contentOf at h
  split at h
  · exact filledBy_of_door hfields h
  · exact filledBy_of_solid hfields h
  · exact filledBy_of_spawn hfields h
  · rename_i hdoor hsolid hspawn
    cases h
    refine ⟨_, rfl, rfl, rfl, ?_, fun hk => absurd hk hdoor, fun hk => absurd hk hsolid, ?_⟩
    · unfold contentFields
      split
      · exact absurd rfl hdoor
      · exact absurd rfl hsolid
      · exact hfields
    · rw [if_neg hspawn]

/-- Of an element that is accepted and names a built-in trait which the host application has not
replaced, every trait can be made, and all of them are the same one, which is filled by the element
and nothing else. -/
theorem filledBy_of_ofElement {host : Option Registrations} {c : Cursor} {m : TraitMaker}
    {name : String} {kind : TraitKind} (hname : nameOf c = some name)
    (hkind : TraitKind.ofName? name = some kind)
    (hhost : host.bind (·.traits.get? name) = none) (h : ofElement host c = .ok m) :
    ∃ t, (∀ n, (List.replicate n m).mapM make = .ok (List.replicate n t)) ∧
      FilledBy host c kind t := by
  have hbase : resolve host name c = .ok (.builtIn kind) := by
    simp only [resolve, hhost, hkind]
  obtain ⟨-, -, h⟩ := Attempt.bind_eq_ok_iff.1 h
  rw [hname] at h
  obtain ⟨base, hresolved, h⟩ := Attempt.bind_eq_ok_iff.1 h
  cases hbase.symm.trans hresolved
  obtain ⟨template, htemplate, h⟩ := Attempt.bind_eq_ok_iff.1 h
  cases htemplate
  obtain ⟨ps, hps, h⟩ := Attempt.bind_eq_ok_iff.1 h
  obtain ⟨found, hfound, h⟩ := Attempt.bind_eq_ok_iff.1 h
  cases h
  rw [structured_of_ofName? hkind] at hfound
  obtain ⟨t, ht, hfilled⟩ := filledBy_of_contentOf (filled_of_propertiesOf hps) hfound
  exact ⟨t, Attempt.mapM_replicate ht, hfilled⟩

end

/-- A door with attributes that are read as one field, as no field, as inner fields and as the field
that its direction goes to. -/
def gate : Cursor :=
  .ofDocument ⟨⟨"trait", [("one-way", "true"), ("name", "door"), ("host", "true"),
    ("direction", "up"), ("_speed", "true"), ("one_way", "false"), ("NAME", "true"),
    ("speed", "slow")], 1, [.element "direction" [("x", "0")] 2 []]⟩, none⟩

open Bare in
theorem filledBy_of_ofElement_gate :
    ∃ m t, ofElement none gate = .ok m ∧
      (∀ n, (List.replicate n m).mapM make = .ok (List.replicate n t)) ∧
      t.fields.keys = ["enabled", "direction", "one_way", "speed"] ∧
      t.field "one_way" = .truth false ∧ t.field "speed" = .text "slow" ∧
      t.field "direction" = .vec2 {} := by
  obtain ⟨m, hm⟩ := Attempt.exists_eq_ok
    (show (ofElement none gate).toOption.isSome by decide +kernel)
  have hkind : TraitKind.ofName? "door" = some .door := rfl
  obtain ⟨t, ht, hfilled⟩ := filledBy_of_ofElement rfl hkind rfl hm
  refine ⟨m, t, hm, ht, hfilled.fields.keys, ?_, ?_, ?_⟩
  · obtain ⟨w, hw, hget⟩ := hfilled.fields.filled "one_way" (.truth false) "false" rfl
      ⟨rfl, by decide, by decide⟩ rfl
    cases hw
    simp [Trait.field, hget]
  · obtain ⟨w, hw, hget⟩ := hfilled.fields.filled "speed" (.real 30) "slow" rfl
      ⟨rfl, by decide, by decide⟩ rfl
    cases hw
    simp [Trait.field, hget]
  · obtain ⟨v, hv, hget⟩ := hfilled.direction rfl _ rfl
    cases hv
    simp [Trait.field, hget]

end TraitMaker

end Stagecraft
