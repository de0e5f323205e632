import Stagecraft.Proofs.Drafts
import Stagecraft.Proofs.Reactions

/-!
# Groups of events

Elements that declare events may stand in an entity or in a scene, any number of them. What one of
them says does not depend on where it stands. An entity reads them all, one after the other; a scene
reads the first one only, so that the two agree where no other one has an event.
-/

namespace Stagecraft

open Markup

namespace Markup

namespace Cursor

/-- A reader looks at an element only, not at the place it stands at. -/
def Local {α : Type} (f : Cursor → α) : Prop := ∀ c d : Cursor, c.element = d.element → f c = f d

variable {α : Type} {c d : Cursor}

theorem map_element_siblings (url : Option String) (above : List Element) (address : List Nat)
    (index : Nat) (nodes : List Node) :
    (siblings url above address index nodes).map element = nodes.filterMap Node.element? := by
  induction nodes generalizing index with
  | nil => rfl
  | cons node nodes ih =>
      unfold siblings
      cases hnode : node.element? with
      | none => simp [hnode, ih]
      | some e => simp [hnode, ih]

/-- The children with a tag are the same elements wherever their parent stands. -/
theorem map_element_childrenTagged (c : Cursor) (tag : String) :
    (c.childrenTagged tag).map element =
      (c.element.children.filterMap Node.element?).filter (·.tag = tag) := by
  rw [← map_element_siblings c.url (c.element :: c.above) c.address 0, List.filter_map]
  rfl

theorem childrenTagged_congr (h : c.element = d.element) (tag : String) :
    (c.childrenTagged tag).map element = (d.childrenTagged tag).map element := by
  rw [map_element_childrenTagged, map_element_childrenTagged, h]

theorem Local.mapM {f : Cursor → Except Fault α} (hf : Local f) {cs ds : List Cursor}
    (h : cs.map element = ds.map element) : cs.mapM f = ds.mapM f := by
  induction cs generalizing ds with
  | nil =>
      rw [List.map_eq_nil_iff.1 h.symm]
  | cons c cs ih =>
      cases ds with
      | nil => cases h
      | cons d ds =>
          obtain ⟨hcd, hrest⟩ := List.cons.inj h
          rw [List.mapM_cons, List.mapM_cons, hf c d hcd, ih hrest]

end Cursor

end Markup

theorem Action.local_ofElement : Cursor.Local Action.ofElement := by
  intro c d h
  unfold ofElement needed Cursor.get?
  rw [h]

theorem EventBinding.local_ofElement : Cursor.Local EventBinding.ofElement := by
  intro c d h
  unfold ofElement Action.allOf Cursor.get?
  rw [h, Action.local_ofElement.mapM (Cursor.childrenTagged_congr h "action")]

theorem EventBinding.local_allOf : Cursor.Local EventBinding.allOf := by
  intro c d h
  unfold allOf Cursor.ensure Cursor.tag
  rw [h, EventBinding.local_ofElement.mapM (Cursor.childrenTagged_congr h "event")]

/-- The actions of a handler that runs actions. -/
def Handler.actions? : Handler → Option (List Action)
  | .actions as => some as
  | _ => none

/-- The lists of actions that are bound to an event, first bound first. -/
def Bus.actionsBound (b : Bus Handler) (event : String) : List (List Action) :=
  (b.bound event).filterMap Handler.actions?

namespace EventBinding

/-- The lists of actions that bindings give to an event. -/
def listsAt (bs : List EventBinding) (event : String) : List (List Action) :=
  (bs.filter (·.name = event)).map (·.actions)

theorem listsAt_append (bs cs : List EventBinding) (event : String) :
    listsAt (bs ++ cs) event = listsAt bs event ++ listsAt cs event := by
  simp [listsAt]

/-- Bindings that add nothing to any event are none. -/
theorem listsAt_append_eq_iff {bs cs : List EventBinding} :
    (∀ event, listsAt bs event = listsAt (bs ++ cs) event) ↔ cs = [] := by
  constructor
  · intro h
    rw [List.eq_nil_iff_forall_not_mem]
    intro c hc
    have hmem : c.actions ∈ listsAt cs c.name :=
      List.mem_map.2 ⟨c, List.mem_filter.2 ⟨hc, by simp⟩, rfl⟩
    have hnil : listsAt cs c.name = [] := by
      have happend := h c.name
      rw [listsAt_append] at happend
      exact List.self_eq_append_right.1 happend
    rw [hnil] at hmem
    cases hmem
  · rintro rfl event
    rw [List.append_nil]

theorem filterMap_actions (bs : List EventBinding) (event : String) :
    ((bs.filter (·.name = event)).map fun b => Handler.actions b.actions).filterMap
      Handler.actions? = listsAt bs event := by
  rw [List.filterMap_map, listsAt, ← List.filterMap_eq_map]
  rfl

end EventBinding

namespace Blueprint

theorem actionsBound_of_build [Application] {b : Blueprint} (hb : b.Standard) {e : Entity}
    (h : b.build = .ok e) (event : String) :
    e.bus.actionsBound event = EventBinding.listsAt b.events event := by
  have hspawns : ((b.reactions.spawnsAt event).map Handler.spawn).filterMap Handler.actions? =
      [] := by
    simp [List.filterMap_map, Function.comp_def, Handler.actions?]
  rw [Bus.actionsBound, (bound_of_build hb h).1, Reactions.handlersAt, List.filterMap_append,
    hspawns]
  exact EventBinding.filterMap_actions b.events event

end Blueprint

namespace SceneDraft

section

variable {c : Cursor}

/-- The bindings of a scene, which are those of its first events element. -/
def bindings (c : Cursor) : Except Fault (List EventBinding) :=
  match (c.childrenTagged "events").head? with
  | none => .ok []
  | some events => EventBinding.allOf events

/-- The actions before and after a scene, in its first events element. -/
def moments (c : Cursor) : List Cursor :=
  match (c.childrenTagged "events").head? with
  | none => []
  | some events => events.find (Selector.ofString "after > action, before > action")

/-- The transitions of a scene come first at its end; otherwise there are its bindings only. -/
theorem bound_of_handlers {bus : Bus Handler} (h : handlers c = .ok bus) :
    ∃ ts bs, (moments c).mapM transition = .ok ts ∧ bindings c = .ok bs ∧
      ∀ event, bus.bound event = (if endEvent = event then ts else []) ++
        (bs.filter (·.name = event)).map fun b => .actions b.actions := by
  unfold handlers at h
  unfold moments bindings
  cases hhead : (c.childrenTagged "events").head? with
  | none =>
      rw [hhead] at h
      cases h
      exact ⟨[], [], rfl, rfl, by simp⟩
  | some events =>
      rw [hhead] at h
      obtain ⟨ts, hts, h⟩ := Attempt.bind_eq_ok_iff.1 h
      obtain ⟨bs, hbs, h⟩ := Attempt.bind_eq_ok_iff.1 h
      cases h
      refine ⟨ts, bs, hts, hbs, fun event => ?_⟩
      have htransitions := Bus.bound_foldl_bind (fun _ : Handler => endEvent) id ts [] event
      simp only [id] at htransitions
      rw [Bus.bound_foldl_bind, htransitions]
      by_cases hend : endEvent = event
      · simp [hend]
      · simp [hend]

/-- The first of several groups is what a scene reads. -/
theorem bindings_of_groups {groups : List (List EventBinding)}
    (h : (c.childrenTagged "events").mapM EventBinding.allOf = .ok groups) :
    bindings c = .ok (groups.head?.getD []) := by
  unfold bindings
  cases hc : c.childrenTagged "events" with
  | nil =>
      rw [hc] at h
      cases h
      rfl
  | cons events rest =>
      rw [hc, List.mapM_cons] at h
      obtain ⟨bs, hbs, h⟩ := Attempt.bind_eq_ok_iff.1 h
      obtain ⟨more, -, h⟩ := Attempt.bind_eq_ok_iff.1 h
      cases h
      exact hbs

end

section

variable [Application] {l : Loader} {c : Cursor} {d : SceneDraft}

theorem handlers_of_ofElement (h : (ofElement l c).run.1 = .ok d) :
    handlers c = .ok d.scene.bus := by
  obtain ⟨_, h⟩ := compile_of_ofElement h
  obtain ⟨raw, hraw, h⟩ := Timed.bind_eq_ok_iff.1 h
  obtain ⟨settled, hsettled, h⟩ := Timed.bind_eq_ok_iff.1 h
  obtain ⟨_, -, h⟩ := Timed.bind_eq_ok_iff.1 h
  cases h
  obtain ⟨world, -, hsettled⟩ := Attempt.bind_eq_ok_iff.1 hsettled
  cases hsettled
  obtain ⟨camera, -, h⟩ := Timed.bind_eq_ok_iff.1 hraw
  obtain ⟨bus, hbus, h⟩ := Timed.bind_eq_ok_iff.1 h
  obtain ⟨⟨w, behaviors⟩, -, h⟩ := Timed.bind_eq_ok_iff.1 h
  obtain ⟨gravity, -, h⟩ := Timed.bind_eq_ok_iff.1 h
  obtain ⟨sequences, -, h⟩ := Timed.bind_eq_ok_iff.1 h
  obtain ⟨⟨audio, pool⟩, -, h⟩ := Timed.bind_eq_ok_iff.1 h
  obtain ⟨⟨w', layout⟩, -, h⟩ := Timed.bind_eq_ok_iff.1 h
  obtain ⟨_, -, h⟩ := Timed.bind_eq_ok_iff.1 h
  cases h
  exact hbus

/-- A scene without transitions and an entity with the same groups of events bind the same actions
to each event, in the same order, if and only if all events are in the first group: the entity has
those of all groups, and the scene has lost those of the others. -/
theorem actionsBound_of_groups {l' : Loader} {c' : Cursor} {pool : Pool} {id : String}
    {entry : Entry} {e : Entity} (hhost : l'.host.Standard) (hd : (ofElement l c).run.1 = .ok d)
    (hpool : (Pool.ofElement l' c').run.1 = .ok pool) (hentry : pool.get? id = some entry)
    (he : entry.blueprint.build = .ok e)
    (hsame : (c.childrenTagged "events").map Cursor.element =
      (entry.place.childrenTagged "events").map Cursor.element)
    (hmoments : moments c = []) :
    ∃ groups, (c.childrenTagged "events").mapM EventBinding.allOf = .ok groups ∧
      (∀ event, d.scene.bus.bound event =
        ((groups.head?.getD []).filter (·.name = event)).map fun b => .actions b.actions) ∧
      (∀ event, e.bus.actionsBound event = EventBinding.listsAt groups.flatten event) ∧
      ((∀ event, d.scene.bus.actionsBound event = e.bus.actionsBound event) ↔
        groups.tail.flatten = []) := by
  have hstandard := Blueprint.standard_of_ofElement hhost hpool hentry
  obtain ⟨a, -, -, hentries⟩ := Pool.compile_eq_ok hpool
  obtain ⟨item, -, h⟩ := Attempt.exists_mem_of_forall₂ hentries (Catalog.mem_of_get? hentry)
  rw [h.place] at hsame
  obtain ⟨groups, hgroups, hevents⟩ := Attempt.bind_eq_ok_iff.1 h.reads.events
  rw [← EventBinding.local_allOf.mapM hsame] at hgroups
  obtain ⟨ts, bs, hts, hbs, hbound⟩ := bound_of_handlers (handlers_of_ofElement hd)
  cases hbs.symm.trans (bindings_of_groups hgroups)
  have hscene (event : String) : d.scene.bus.bound event =
      ((groups.head?.getD []).filter (·.name = event)).map fun b => .actions b.actions := by
    rw [hmoments] at hts
    cases hts
    simpa using hbound event
  have hlists (event : String) : d.scene.bus.actionsBound event =
      EventBinding.listsAt (groups.head?.getD []) event := by
    rw [Bus.actionsBound, hscene]
    exact EventBinding.filterMap_actions _ event
  have hentity (event : String) :
      e.bus.actionsBound event = EventBinding.listsAt groups.flatten event := by
    rw [Except.ok.inj hevents]
    exact Blueprint.actionsBound_of_build hstandard he event
  have hflatten : groups.flatten = groups.head?.getD [] ++ groups.tail.flatten := by
    cases groups with
    | nil => rfl
    | cons bs more => rfl
  refine ⟨groups, hgroups, hscene, hentity, ?_⟩
  simp only [hlists, hentity]
  rw [hflatten]
  exact EventBinding.listsAt_append_eq_iff

end

/-- A scene with groups of events. -/
def staged (groups : List Node) : Cursor := .ofDocument ⟨⟨"scene", [], 1, groups⟩, none⟩

/-- A pool of one entity with groups of events. -/
def pooled (groups : List Node) : Cursor :=
  .ofDocument ⟨⟨"entities", [], 1, [.element "entity" [("id", "tower")] 1 groups]⟩, none⟩

/-- A bell in the first of two groups, the other of which is empty. -/
def bell : List Node :=
  [.element "events" [] 1 [.element "event" [("name", "ring")] 1
    [.element "action" [("type", "emit"), ("event", "sway")] 1 []]], .element "events" [] 1 []]

/-- A bell in each of two groups. -/
def bells : List Node :=
  [.element "events" [] 1 [.element "event" [("name", "ring")] 1 []],
    .element "events" [] 1 [.element "event" [("name", "toll")] 1 []]]

/-- What is compiled from the same groups, in a scene and in an entity. -/
theorem exists_compiled [Application] (groups : List Node)
    (hscene : (ofElement {} (staged groups)).run.1.toOption.isSome)
    (hentity : ((Pool.ofElement {} (pooled groups)).run.1.toOption.bind (·.get? "tower")).map
      (fun entry => entry.blueprint.build.toOption.isSome) = some true) :
    ∃ d pool entry e, (ofElement {} (staged groups)).run.1 = .ok d ∧
      (Pool.ofElement {} (pooled groups)).run.1 = .ok pool ∧ pool.get? "tower" = some entry ∧
      entry.blueprint.build = .ok e ∧
      ((staged groups).childrenTagged "events").map Cursor.element =
        (entry.place.childrenTagged "events").map Cursor.element := by
  obtain ⟨d, hd⟩ := Attempt.exists_eq_ok hscene
  obtain ⟨pool, entry, hpool, hentry, hbuild⟩ := Pool.exists_entry _ _ _ _ hentity
  obtain ⟨e, he⟩ := Attempt.exists_eq_ok hbuild
  refine ⟨d, pool, entry, e, hd, hpool, hentry, he, ?_⟩
  obtain ⟨a, -, -, hentries⟩ := Pool.compile_eq_ok hpool
  obtain ⟨item, hitem, h⟩ := Attempt.exists_mem_of_forall₂ hentries (Catalog.mem_of_get? hentry)
  have hchildren : item.element.children = groups := by
    have htower : (pooled groups).childrenTagged (Pool.itemTag (pooled groups)) =
        [((pooled groups).child? 0).getD item] := rfl
    rw [htower] at hitem
    rw [List.mem_singleton.1 hitem]
    rfl
  have hplace : entry.place = item := h.place
  rw [Cursor.map_element_childrenTagged, Cursor.map_element_childrenTagged, hplace, hchildren]
  rfl

open Bare in
theorem actionsBound_of_groups_bell :
    ∃ d pool entry e, (ofElement {} (staged bell)).run.1 = .ok d ∧
      (Pool.ofElement {} (pooled bell)).run.1 = .ok pool ∧ pool.get? "tower" = some entry ∧
      entry.blueprint.build = .ok e ∧
      (∀ event, d.scene.bus.actionsBound event = e.bus.actionsBound event) ∧
      e.bus.actionsBound "ring" = [[.emit "sway"]] := by
  obtain ⟨d, pool, entry, e, hd, hpool, hentry, he, hsame⟩ := exists_compiled bell
    (by decide +kernel) (by decide +kernel)
  obtain ⟨groups, hgroups, -, hlists, hagree⟩ :=
    actionsBound_of_groups Registrations.standard_of_nil hd hpool hentry he hsame rfl
  have hbell : ((staged bell).childrenTagged "events").mapM EventBinding.allOf =
      .ok [[⟨"ring", [.emit "sway"]⟩], []] := rfl
  cases hbell.symm.trans hgroups
  exact ⟨d, pool, entry, e, hd, hpool, hentry, he, hagree.2 rfl, hlists "ring"⟩

open Bare in
theorem not_actionsBound_of_groups :
    ¬ ∀ (l l' : Loader) (c c' : Cursor) (d : SceneDraft) (pool : Pool) (id : String)
        (entry : Entry) (e : Entity), (ofElement l c).run.1 = .ok d →
        (Pool.ofElement l' c').run.1 = .ok pool → pool.get? id = some entry →
        entry.blueprint.build = .ok e →
        (c.childrenTagged "events").map Cursor.element =
          (entry.place.childrenTagged "events").map Cursor.element → moments c = [] →
        ∀ event, d.scene.bus.actionsBound event = e.bus.actionsBound event := by
  intro hall
  obtain ⟨d, pool, entry, e, hd, hpool, hentry, he, hsame⟩ := exists_compiled bells
    (by decide +kernel) (by decide +kernel)
  have h := hall _ _ _ _ d pool _ entry e hd hpool hentry he hsame rfl
  have hscene : (ofElement {} (staged bells)).run.1.toOption.map
      (fun d => d.scene.bus.actionsBound "toll") = some [] := by decide +kernel
  have hentity : (((Pool.ofElement {} (pooled bells)).run.1.toOption.bind (·.get? "tower")).bind
      (·.blueprint.build.toOption)).map (·.bus.actionsBound "toll") = some [[]] := by decide +kernel
  rw [hd] at hscene
  rw [hpool] at hentity
  simp [Except.toOption, hentry, he, ← h] at hscene hentity
  rw [hscene] at hentity
  cases hentity

end SceneDraft

end Stagecraft
