import Stagecraft.Proofs.Placing
import Stagecraft.Proofs.Scenes

/-!
# Drafts of scenes

A draft that was made is taken apart into what was placed and by which element. An object of a
layout is looked for among the objects of the scene, and then among what the host application
registers, where an empty name stands for nothing; the first one that is found nowhere ends the
draft.
-/

namespace Stagecraft

open Markup

namespace SceneDraft

section Find

variable {l : Loader} {pool : Pool} {o : Cursor} {id : String}

theorem find_of_entry (hid : o.get? "id" = some id) {entry : Entry}
    (hentry : pool.get? id = some entry) : Origin.find l pool o = .ok (.pool entry) := by
  unfold Origin.find
  rw [hid, Option.bind_some, hentry]

theorem find_of_prebuilt (hid : o.get? "id" = some id) (hnone : pool.get? id = none)
    (hne : id ≠ "") {k : Prebuilt} (hk : l.host.object? id = some k) :
    Origin.find l pool o = .ok (.ofPrebuilt k) := by
  have hfilter : (o.get? "id").filter (· ≠ "") = some id := by simp [hid, hne]
  unfold Origin.find
  rw [hid, Option.bind_some, hnone, ← hid, hfilter, Option.bind_some, hk]

theorem find_of_undefined (hid : o.get? "id" = some id) (hnone : pool.get? id = none)
    (hhost : id = "" ∨ l.host.object? id = none) :
    Origin.find l pool o = .error (.defect (.objectUndefined (some id)) o.element) := by
  have hbind : ((o.get? "id").filter (· ≠ "")).bind l.host.object? = none := by
    rw [hid]
    rcases hhost with rfl | hhost
    · rfl
    · by_cases hne : id = ""
      · simp [hne]
      · simp [hne, hhost]
  unfold Origin.find
  rw [hbind, hid, Option.bind_some, hnone]

end Find

/-- An object of a layout is an entry of the pools, or else what the host application registers:
something that is called, or an entry of another pool. -/
def Resolves (l : Loader) (registry : Pool) (o : Cursor) (p : Placement) : Prop :=
  ∀ id, o.get? "id" = some id →
    (∀ entry, registry.get? id = some entry →
      p.origin = .pool entry ∧ p.origin.source? = some entry.place) ∧
    (registry.get? id = none → id ≠ "" ∧
      ((∃ k, l.host.object? id = some (.maker k) ∧ p.origin = .resource k ∧
          p.origin.source? = none) ∨
        ∃ entry, l.host.object? id = some (.entry entry) ∧ p.origin = .stored entry ∧
          p.origin.source? = some entry.place))

theorem resolves_of_find {l : Loader} {registry : Pool} {o : Cursor} {p : Placement}
    (h : Origin.find l registry o = .ok p.origin) : Resolves l registry o p := by
  intro id hid
  constructor
  · intro entry hentry
    have horigin : p.origin = .pool entry :=
      (Except.ok.inj ((find_of_entry hid hentry).symm.trans h)).symm
    rw [horigin]
    exact ⟨rfl, rfl⟩
  · intro hnone
    by_cases hhost : id = "" ∨ l.host.object? id = none
    · cases (find_of_undefined hid hnone hhost).symm.trans h
    · rw [not_or, ← Ne, ← Ne, Option.ne_none_iff_exists'] at hhost
      obtain ⟨hne, k, hk⟩ := hhost
      have horigin : p.origin = .ofPrebuilt k :=
        (Except.ok.inj ((find_of_prebuilt hid hnone hne hk).symm.trans h)).symm
      rw [horigin]
      cases k with
      | maker k => exact ⟨hne, .inl ⟨k, hk, rfl, rfl⟩⟩
      | entry entry => exact ⟨hne, .inr ⟨entry, hk, rfl, rfl⟩⟩

section

variable [Application] {l : Loader} {c : Cursor} {s : Start} {d : SceneDraft}

theorem compile_eq_ok (h : (compile l c s).result = .ok d) :
    (objects l c).run.1 = .ok d.pool ∧ ∃ w w' gravity,
      Placement.all Placement.behavior {} (zoned c) = .ok (w, d.behaviors) ∧
      Placement.all (Placement.object l d.pool) { w with gravity } (placed c) = .ok (w', d.layout) ∧
      World.settle .none w' = .ok d.world := by
  obtain ⟨raw, hraw, h⟩ := Timed.bind_eq_ok_iff.1 h
  obtain ⟨settled, hsettled, h⟩ := Timed.bind_eq_ok_iff.1 h
  obtain ⟨_, -, h⟩ := Timed.bind_eq_ok_iff.1 h
  cases h
  obtain ⟨world, hworld, hsettled⟩ := Attempt.bind_eq_ok_iff.1 hsettled
  cases hsettled
  obtain ⟨hpool, w, gravity, hbehaviors, hlayout⟩ := unsettled_eq_ok hraw
  exact ⟨hpool, w, raw.world, gravity, hbehaviors, hlayout, hworld⟩

theorem compile_of_ofElement (h : (ofElement l c).run.1 = .ok d) :
    ∃ s, (compile l c s).result = .ok d := by
  obtain ⟨_, -, h⟩ := Timed.bind_eq_ok_iff.1 h
  exact ⟨_, h⟩

/-- Everything that comes before the layout of a scene goes well, but for its objects. -/
structure Prepared (l : Loader) (c : Cursor) : Prop where
  camera : ∃ x, camera c = .ok x
  handlers : ∃ bus, handlers c = .ok bus
  behaviors : ∃ p, Placement.all Placement.behavior {} (zoned c) = .ok p
  gravity : ∀ default, ∃ v, gravity c default = .ok v
  sequences : ∃ defs, declared c "sequences" SequenceDef.allOf = .ok defs
  audio : ∃ clips, (Clip.allOf l c).run.1 = .ok clips

theorem compile_of_layout_eq_error (hprepared : Prepared l c) {registry : Pool}
    (hobjects : (objects l c).run.1 = .ok registry) {f : Fault}
    (h : ∀ w, Placement.all (Placement.object l registry) w (placed c) = .error f) :
    (compile l c s).result = .error f := by
  obtain ⟨camera, hcamera⟩ := hprepared.camera
  obtain ⟨bus, hbus⟩ := hprepared.handlers
  obtain ⟨⟨w, behaviors⟩, hbehaviors⟩ := hprepared.behaviors
  obtain ⟨gravity, hgravity⟩ := hprepared.gravity w.gravity
  obtain ⟨sequences, hsequences⟩ := hprepared.sequences
  obtain ⟨clips, hclips⟩ := hprepared.audio
  refine Timed.bind_eq_error_iff.2 (.inl ?_)
  refine Timed.bind_eq_error_iff.2 (.inr ⟨camera, hcamera, ?_⟩)
  refine Timed.bind_eq_error_iff.2 (.inr ⟨bus, hbus, ?_⟩)
  refine Timed.bind_eq_error_iff.2 (.inr ⟨(w, behaviors), hbehaviors, ?_⟩)
  refine Timed.bind_eq_error_iff.2 (.inr ⟨gravity, hgravity, ?_⟩)
  refine Timed.bind_eq_error_iff.2 (.inr ⟨sequences, hsequences, ?_⟩)
  refine Timed.bind_eq_error_iff.2 (.inr ⟨(clips, registry), Timed.both_eq_ok_iff.2 ⟨?_, ?_⟩, ?_⟩)
  · exact Clip.steady_allOf l c clips {} _ hclips
  · exact steady_objects l c registry {} _ hobjects
  · exact Timed.bind_eq_error_iff.2 (.inl (h _))

/-- A placement of a layout's object: where it came from, and which object of the world it is. That
was built afresh, became what its element wants, and has been settled. -/
def Hosts (l : Loader) (d : SceneDraft) (o : Cursor) (p : Placement) : Prop :=
  p.place = o ∧ Origin.find l d.pool o = .ok p.origin ∧
    ∃ built dressed e, Placement.fresh p.origin = .ok built ∧
      Placement.dress l o built = .ok dressed ∧ d.world.objects[p.seat]? = some e ∧
      (dressed.inWorld d.world.number).timeshift .none = (e, .ok ())

theorem object_eq_ok {registry : Pool} {o : Cursor} {origin : Origin} {e : Entity}
    (h : Placement.object l registry o = .ok (origin, e)) :
    Origin.find l registry o = .ok origin ∧ ∃ built, Placement.fresh origin = .ok built ∧
      Placement.dress l o built = .ok e := by
  obtain ⟨origin', horigin, h⟩ := Attempt.bind_eq_ok_iff.1 h
  obtain ⟨built, hbuilt, h⟩ := Attempt.bind_eq_ok_iff.1 h
  obtain ⟨dressed, hdressed, h⟩ := Attempt.bind_eq_ok_iff.1 h
  cases h
  exact ⟨horigin, built, hbuilt, hdressed⟩

theorem hosts_of_compile (h : (compile l c s).result = .ok d) :
    List.Forall₂ (Hosts l d) (placed c) d.layout := by
  obtain ⟨-, w, w', gravity, -, hlayout, hsettled⟩ := compile_eq_ok h
  obtain ⟨hshift, hworld⟩ := World.settle_eq_ok hsettled
  obtain ⟨es, -, -, hseats, -⟩ := Placement.all_eq_ok hlayout
  refine hseats.imp fun o p hp => ?_
  obtain ⟨hplace, dressed, hmake, hseat⟩ := hp
  obtain ⟨e, he, hshift⟩ := Attempt.exists_getElem?_of_forall₂ hshift hseat
  obtain ⟨hfind, built, hbuilt, hdressed⟩ := object_eq_ok hmake
  have hnumber : d.world.number = w'.number := by rw [hworld]
  exact ⟨hplace, hfind, built, dressed, e, hbuilt, hdressed, he, hnumber.symm ▸ hshift⟩

/-- The objects of a scene are those of its pools, of two with one id the one from the later pool,
and its layout takes them from there, or else from what the host application registers under a name
that is not empty. The first object of a layout that is found nowhere is what goes wrong. -/
theorem objects_of_pools (htag : c.tag = "scene") {pools : List Pool}
    (hpools : List.Forall₂ (LeadsTo l) (c.childrenTagged "objects") pools) :
    ∃ registry, (objects l c).run.1 = .ok registry ∧ registry.keys.Nodup ∧
      (∀ id, id ∈ registry.keys ↔ ∃ pool ∈ pools, id ∈ pool.keys) ∧
      (∀ id, registry.get? id = (pools.filterMap (Catalog.get? · id)).getLast?) ∧
      (∀ d, (ofElement l c).run.1 = .ok d → d.pool = registry ∧
        List.Forall₂ (fun o p => Hosts l d o p ∧ Resolves l registry o p) (placed c) d.layout) ∧
      (Prepared l c → ∀ before o after id, placed c = before ++ o :: after →
        (∀ b ∈ before, ∃ r, Placement.object l registry b = .ok r) →
        o.get? "id" = some id → registry.get? id = none → id = "" ∨ l.host.object? id = none →
        (ofElement l c).run.1 = .error (.defect (.objectUndefined (some id)) o.element)) := by
  have hobjects : (objects l c).run.1 = .ok (pools.foldl Catalog.putAll []) :=
    objects_eq_ok_iff.2 ⟨pools, hpools, rfl⟩
  refine ⟨_, hobjects, Catalog.nodup_keys_foldl_putAll Catalog.nodup_keys_nil pools,
    mem_keys_of_objects hpools, get?_of_objects hpools, fun d hd => ?_, ?_⟩
  · obtain ⟨s, hd⟩ := compile_of_ofElement hd
    have hpool : d.pool = pools.foldl Catalog.putAll [] :=
      Except.ok.inj ((compile_eq_ok hd).1.symm.trans hobjects)
    refine ⟨hpool, (hosts_of_compile hd).imp fun o p hp => ⟨hp, ?_⟩⟩
    rw [← hpool]
    exact resolves_of_find hp.2.1
  · intro hprepared before o after id hplaced hbefore hid hnone hhost
    have hobject : Placement.object l (pools.foldl Catalog.putAll []) o =
        .error (.defect (.objectUndefined (some id)) o.element) :=
      Attempt.bind_eq_error_iff.2 (.inl (find_of_undefined hid hnone hhost))
    have hlayout (w : World Entity) :
        Placement.all (Placement.object l (pools.foldl Catalog.putAll [])) w (placed c) =
          .error (.defect (.objectUndefined (some id)) o.element) := by
      rw [hplaced]
      exact Placement.all_eq_error hbefore hobject
    unfold ofElement
    rw [Cursor.ensure_of_mem (by simp [htag])]
    exact compile_of_layout_eq_error hprepared hobjects hlayout

end

/-- A host application whose ferries are made by a blueprint that it has compiled itself. -/
@[reducible] def ferrying : Application :=
  { Application.bare with
    construct := fun _ => letI := Application.bare; ({ id := "ferry" } : Blueprint).build }

/-- A buoy of some other pool. -/
def buoy : Entry where
  place := .ofDocument ⟨⟨"object", [("id", "buoy")], 9, []⟩, none⟩
  blueprint := { id := "buoy" }

/-- A loader for which ferries and the buoy are registered. -/
def marina : Loader where
  host :=
    { resources :=
        [("object", [("ferry", .object (.maker (.registered ⟨"Ferry", 0⟩))),
          ("buoy", .object (.entry buoy))])] }

/-- A scene with two pools that both have a coin, and with a layout. -/
def harbor (layout : List Node) : Cursor :=
  .ofDocument
    ⟨⟨"scene", [], 1,
      [.element "objects" [] 2 [.element "object" [("id", "coin")] 3 []],
        .element "objects" [] 4 [.element "object" [("id", "coin")] 5 []],
        .element "layout" [] 6 [.element "objects" [] 6 layout]]⟩, none⟩

/-- A layout for which everything is there. -/
def quay : List Node :=
  [.element "object" [("id", "coin")] 7 [], .element "object" [("id", "ferry")] 7 [],
    .element "object" [("id", "buoy")] 7 []]

/-- A layout that asks for a ghost as well. -/
def haunted : List Node :=
  [.element "object" [("id", "coin")] 7 [], .element "object" [("id", "ghost")] 8 []]

/-- The pools of the harbor, whatever its layout. -/
theorem exists_pools_harbor [Application] (layout : List Node) : ∃ pools,
    List.Forall₂ (LeadsTo marina) ((harbor layout).childrenTagged "objects") pools ∧
      (pools.filterMap (Catalog.get? · "coin")).getLast?.map (·.place.element.line) = some 5 ∧
      (pools.filterMap (Catalog.get? · "ferry")).getLast? = none ∧
      (pools.filterMap (Catalog.get? · "buoy")).getLast? = none ∧
      (pools.filterMap (Catalog.get? · "ghost")).getLast? = none :=
  ⟨_, .cons ⟨_, rfl, rfl, rfl⟩ (.cons ⟨_, rfl, rfl, rfl⟩ .nil), rfl, rfl, rfl, rfl⟩

theorem objects_of_pools_harbor :
    letI := ferrying
    (∃ d, (ofElement marina (harbor quay)).run.1 = .ok d ∧
      d.layout.map (fun p => p.origin.source?.map (·.element.line)) = [some 5, none, some 9]) ∧
    (ofElement marina (harbor haunted)).run.1 = .error
      (.defect (.objectUndefined (some "ghost")) ⟨"object", [("id", "ghost")], 8, []⟩) := by
  let _ := ferrying
  constructor
  · obtain ⟨pools, hpools, hcoin, hferry, hbuoy, -⟩ := exists_pools_harbor quay
    obtain ⟨registry, -, -, -, hget, hdraft, -⟩ := objects_of_pools rfl hpools
    obtain ⟨d, hd⟩ : ∃ d, (ofElement marina (harbor quay)).run.1 = .ok d :=
      Attempt.exists_eq_ok (by decide +kernel)
    refine ⟨d, hd, ?_⟩
    obtain ⟨a, b, c, hplaced, hcoinId, hferryId, hbuoyId⟩ : ∃ a b c,
        placed (harbor quay) = [a, b, c] ∧ a.get? "id" = some "coin" ∧
          b.get? "id" = some "ferry" ∧ c.get? "id" = some "buoy" :=
      ⟨_, _, _, rfl, rfl, rfl, rfl⟩
    have hlayout := (hdraft d hd).2
    rw [hplaced] at hlayout
    generalize d.layout = ps at hlayout ⊢
    obtain _ | ⟨⟨-, hp⟩, _ | ⟨⟨-, hq⟩, _ | ⟨⟨-, hr⟩, _ | _⟩⟩⟩ := hlayout
    rename_i p q r
    have hfirst : p.origin.source?.map (·.element.line) = some 5 := by
      rw [← hget] at hcoin
      obtain ⟨entry, hentry, hline⟩ := Option.map_eq_some_iff.1 hcoin
      rw [((hp _ hcoinId).1 entry hentry).2]
      exact congrArg some hline
    have hferryHost :
        marina.host.object? "ferry" = some (.maker (.registered ⟨"Ferry", 0⟩)) := rfl
    have hsecond : q.origin.source? = none := by
      obtain ⟨-, ⟨_, -, -, h⟩ | ⟨entry, h, -⟩⟩ := (hq _ hferryId).2 ((hget _).trans hferry)
      · exact h
      · cases hferryHost.symm.trans h
    have hbuoyHost : marina.host.object? "buoy" = some (.entry buoy) := rfl
    have hthird : r.origin.source? = some buoy.place := by
      obtain ⟨-, ⟨k, h, -⟩ | ⟨entry, h, -, hsource⟩⟩ := (hr _ hbuoyId).2 ((hget _).trans hbuoy)
      · cases hbuoyHost.symm.trans h
      · cases hbuoyHost.symm.trans h
        exact hsource
    rw [List.map_cons, List.map_cons, List.map_cons, hfirst, hsecond, hthird]
    rfl
  · obtain ⟨pools, hpools, -, -, -, hghost⟩ := exists_pools_harbor haunted
    obtain ⟨registry, hobjects, -, -, hget, -, hundefined⟩ := objects_of_pools rfl hpools
    have hprepared : Prepared marina (harbor haunted) :=
      ⟨⟨_, rfl⟩, ⟨_, rfl⟩, ⟨_, rfl⟩, fun _ => ⟨_, rfl⟩, ⟨_, rfl⟩, ⟨_, rfl⟩⟩
    let o (n : Nat) : Cursor := ((placed (harbor haunted))[n]?).getD (harbor haunted)
    have hcoin : (match (objects marina (harbor haunted)).run.1 with
        | .ok registry => (Placement.object marina registry (o 0)).toOption.isSome
        | .error _ => false) = true := by decide +kernel
    rw [hobjects] at hcoin
    refine hundefined hprepared [o 0] (o 1) [] "ghost" rfl ?_ rfl ?_ (.inr rfl)
    · intro b hb
      rw [List.mem_singleton.1 hb]
      exact Attempt.exists_eq_ok hcoin
    · exact (hget _).trans hghost

/-- A layout with an object whose name is empty. -/
def unnamed : Cursor := harbor [.element "object" [("id", "")] 7 []]

/-- A layout with a buoy. -/
def moored : Cursor := harbor [.element "object" [("id", "buoy")] 7 []]

/-- A host application that registers an object under the empty name. -/
def unnamedHost : Registrations := { resources := [("object", [("", .object (.maker .plain))])] }

def blurred : Cursor :=
  .ofDocument
    ⟨⟨"scene", [], 1,
      [.element "camera" [("smoothing", "soft")] 1 [],
        .element "layout" [] 1 [.element "objects" [] 1 [.element "object" [("id", "x")] 1 []]]]⟩,
      none⟩

open Bare in
/-- What the host application registers under the empty name is not found, what a layout lacks is
not told while something before the layout goes wrong, and an entry of another pool that the host
application registers comes from an element. -/
theorem not_resolved_of_unnamed :
    (¬ ∀ (l : Loader) (c : Cursor) (registry : Pool), c.tag = "scene" →
      (objects l c).run.1 = .ok registry → ∀ before o after id k,
        placed c = before ++ o :: after →
        (∀ b ∈ before, ∃ r, Placement.object l registry b = .ok r) → o.get? "id" = some id →
        registry.get? id = none → l.host.object? id = some k →
        (ofElement l c).run.1 ≠ .error (.defect (.objectUndefined (some id)) o.element)) ∧
    (¬ ∀ (l : Loader) (c : Cursor) (registry : Pool), c.tag = "scene" →
      (objects l c).run.1 = .ok registry → ∀ before o after id,
        placed c = before ++ o :: after →
        (∀ b ∈ before, ∃ r, Placement.object l registry b = .ok r) → o.get? "id" = some id →
        registry.get? id = none → l.host.object? id = none →
        (ofElement l c).run.1 = .error (.defect (.objectUndefined (some id)) o.element)) ∧
    ¬ ∀ (l : Loader) (c : Cursor) (d : SceneDraft), (ofElement l c).run.1 = .ok d →
      ∀ p ∈ d.layout, ∀ id, p.place.get? "id" = some id → d.pool.get? id = none →
        p.origin.source? = none := by
  refine ⟨fun hall => ?_, fun hall => ?_, fun hall => ?_⟩
  · let o : Cursor := ((placed unnamed)[0]?).getD unnamed
    obtain ⟨registry, hobjects⟩ : ∃ registry,
        (objects { host := unnamedHost } unnamed).run.1 = .ok registry ∧
          registry.get? "" = none := ⟨_, rfl, rfl⟩
    refine hall { host := unnamedHost } unnamed registry rfl hobjects.1 [] o [] "" (.maker .plain)
      rfl (fun b hb => nomatch hb) rfl hobjects.2 rfl rfl
  · let o : Cursor := ((placed blurred)[0]?).getD blurred
    have hnone : ∀ b ∈ [], ∃ r, Placement.object {} [] b = .ok r := fun b hb => nomatch hb
    have h := hall {} blurred [] rfl rfl [] o [] "x" rfl hnone rfl rfl rfl
    cases h
  · obtain ⟨d, hd⟩ : ∃ d, (ofElement marina moored).run.1 = .ok d :=
      Attempt.exists_eq_ok (by decide +kernel)
    obtain ⟨s, hcompile⟩ := compile_of_ofElement hd
    have hpool : (objects marina moored).run.1 = .ok d.pool := (compile_eq_ok hcompile).1
    obtain ⟨registry, hobjects, hnone⟩ : ∃ registry,
        (objects marina moored).run.1 = .ok registry ∧ registry.get? "buoy" = none :=
      ⟨_, rfl, rfl⟩
    cases Except.ok.inj (hpool.symm.trans hobjects)
    obtain ⟨o, hplaced, hid⟩ : ∃ o, placed moored = [o] ∧ o.get? "id" = some "buoy" :=
      ⟨_, rfl, rfl⟩
    have hlayout := hosts_of_compile hcompile
    rw [hplaced] at hlayout
    obtain ⟨p, rest, ⟨hplace, hfind, -⟩, -, hps⟩ := List.forall₂_cons_left_iff.1 hlayout
    have hbuoy : marina.host.object? "buoy" = some (.entry buoy) := rfl
    have horigin : p.origin = .stored buoy :=
      Except.ok.inj (hfind.symm.trans (find_of_prebuilt hid hnone (by decide) hbuoy))
    have hsource := hall marina moored d hd p (by simp [hps]) "buoy" (hplace ▸ hid) hnone
    rw [horigin] at hsource
    cases hsource

end SceneDraft

end Stagecraft
