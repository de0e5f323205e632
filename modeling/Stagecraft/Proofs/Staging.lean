import Stagecraft.Proofs.Drafts
import Stagecraft.Stage.Basic

/-!
# Scenes on a stage

A scene that is raised on a stage has a world of its own, which holds the instance of every
rectangle that behaves in some way and then the instance of every object of the layout, in document
order and nothing else. An instance from a pool carries what its entity and its own element say.
-/

namespace Stagecraft

open Markup

namespace Stage

variable (s : Stage) (d : SceneDraft)

theorem world_raise : (s.raise d).world s.worlds.length =
    { d.world.withObjects ((List.range d.world.objects.length).map (s.entities.length + ·)) with
      number := s.worlds.length } := by
  simp [world, raise]

theorem scene_raise :
    (s.raise d).scene s.scenes.length = { d.scene with world := s.worlds.length } := by
  simp [scene, raise]

theorem objects_raise : (s.raise d).objects s.worlds.length =
    d.world.objects.mapIdx fun i e =>
      (e.numbered (s.entities.length + i)).inWorld s.worlds.length := by
  unfold objects
  rw [world_raise]
  refine List.ext_getElem (by simp [World.withObjects]) fun i hi _ => ?_
  have hlt : i < d.world.objects.length := by simpa [World.withObjects] using hi
  simp [World.withObjects, entity, raise, hlt]

end Stage

namespace Trait

theorem moved_hostedBy (t : Trait) (old new : Nat) : (t.hostedBy old).moved old new =
    t.hostedBy new := by
  simp [hostedBy, moved]

theorem elapse_moved (t : Trait) (dt : Elapsed) (old new : Nat) :
    (t.moved old new).elapse dt = (t.elapse dt).map (·.moved old new) := by
  have hcount : (t.moved old new).countTime dt = (t.countTime dt).map (·.moved old new) := by
    change ((t.field "time").addElapsed dt).map _ = (((t.field "time").addElapsed dt).map _).map _
    cases (t.field "time").addElapsed dt <;> rfl
  have hkind : (t.moved old new).kind = t.kind := rfl
  unfold elapse
  rw [hkind]
  split
  · exact hcount
  · exact hcount
  · change ((t.field "speed").times dt >>= fun turn =>
        (t.field "angle").add turn >>= fun angle => .ok _) =
      ((t.field "speed").times dt >>= fun turn =>
        (t.field "angle").add turn >>= fun angle => .ok _).map _
    cases (t.field "speed").times dt with
    | error f => rfl
    | ok turn =>
        change ((t.field "angle").add turn >>= fun angle => .ok _) =
          ((t.field "angle").add turn >>= fun angle => .ok _).map _
        cases (t.field "angle").add turn <;> rfl
  · rfl

theorem Settles.moved {t u : Trait} (h : Settles t u) (old new : Nat) :
    Settles (t.moved old new) (u.moved old new) := by
  have henabled : (t.moved old new).isEnabled = t.isEnabled := rfl
  unfold Settles at h ⊢
  rw [henabled, elapse_moved]
  split at h
  · rw [if_pos ‹_›, h]
    rfl
  · rw [if_neg ‹_›]
    cases h
    rfl

end Trait

namespace Placement

theorem direction_of_facing {o : Cursor} {v : Vec2} (h : facing o = .ok v) :
    ∃ dir x, o.integer? "dir" = .ok dir ∧
      Binary64.ofInt? ((dir.filter (· ≠ 0)).getD 1) = some x ∧ v = ⟨x, 0⟩ := by
  obtain ⟨dir, hdir, h⟩ := Attempt.bind_eq_ok_iff.1 h
  dsimp only at h
  split at h
  · rename_i x hx
    cases h
    exact ⟨dir, x, hdir, hx, rfl⟩
  · cases h

theorem scale_of_shown {b : Blueprint} {o : Cursor} {x y : Option Model} {p : Option Plane}
    (hx : Option.Rel b.ShownOn x p) (hy : Option.Rel (Scaled o) x y) :
    y.isSome = p.isSome ∧ ∀ m, y = some m → ∃ scale, o.real? "scale" = .ok scale ∧
      m.scale = (⟨1, 1, 1⟩ : Vec3).scale (factor scale) := by
  cases hx with
  | none =>
      cases hy
      exact ⟨rfl, fun _ hm => nomatch hm⟩
  | some hshown =>
      cases hy with
      | some hfactor =>
          refine ⟨rfl, fun m hm => ?_⟩
          cases hm
          obtain ⟨scale, hscale, heq⟩ := hfactor
          refine ⟨scale, hscale, ?_⟩
          rw [heq, congrArg Model.scale hshown.2]

theorem map_place_of_seats {make : Cursor → Except Fault (Origin × Entity)} {w : World Entity}
    {cs : List Cursor} {ps : List Placement} (h : List.Forall₂ (Seats make w) cs ps) :
    ps.map (·.place) = cs :=
  Attempt.map_eq_of_forall₂ (h.imp fun _ _ hp => hp.1)

variable [Application]

/-- A rectangle has become an entity that behaves in the way of the group it is in. -/
def Behaves (r : Cursor) (e : Entity) : Prop :=
  ∃ b rect f, Behavior.ofElement r = .ok b ∧ r.rect = .ok rect ∧ b.make rect = .ok f ∧
    e = { f.numbered e.number with world := e.world }

theorem Behaves.raised {r : Cursor} {e : Entity} (h : Behaves r e) (k n : Nat) :
    Behaves r ((e.numbered k).inWorld n) := by
  obtain ⟨b, rect, f, hb, hrect, hmake, heq⟩ := h
  refine ⟨b, rect, f, hb, hrect, hmake, ?_⟩
  rw [heq]
  cases b <;> cases hmake <;>
    simp [Entity.numbered, Entity.inWorld, Trait.moved, Trait.hostedBy]

/-- What an instance carries: what it has from the entity of the pool, and what it has from the
element that placed it. -/
structure Carries (l : Loader) (entry : Entry) (o : Cursor) (e : Entity) : Prop where
  name : e.name = some entry.blueprint.id
  collision : e.collision = entry.blueprint.collision
  id : e.id = o.get? "instance-id"
  direction : ∃ dir x, o.integer? "dir" = .ok dir ∧
    Binary64.ofInt? ((dir.filter (· ≠ 0)).getD 1) = some x ∧ e.direction = ⟨x, 0⟩
  traits : ∃ ts, List.Forall₂ (Writes l) (TraitMaker.sources entry.place ++ traitElements o) ts ∧
    List.Forall₂ Trait.Settles (ts.map (·.hostedBy e.number)) e.traits
  model : e.model.isSome = entry.blueprint.planes.head?.isSome
  scale : ∀ m, e.model = some m → ∃ scale, o.real? "scale" = .ok scale ∧
    m.scale = (⟨1, 1, 1⟩ : Vec3).scale (factor scale)

variable {l : Loader} {a : Atlas} {item o : Cursor} {id : String} {entry : Entry} {e : Entity}

theorem carries_of_stems (hentities : l.host.entities = []) (hhost : l.host.Standard)
    (hentry : Pool.Compiles l a item (id, entry)) {built : Entity}
    (hbuilt : entry.blueprint.build = .ok built) (h : Stems l o built e) :
    Carries l entry o e := by
  have hbase := Blueprint.base_of_reads hentities hentry.reads
  have hordinary := (Blueprint.standard_of_reads hhost hentry.reads).traits
  obtain ⟨us, hus, hout⟩ := Blueprint.outfitted_of_build hbase hordinary hbuilt
  obtain ⟨ts, hts, htraits⟩ := h.traits
  have hplace : entry.place = item := hentry.place
  have hmakers := TraitMaker.forall₂_of_declared hentry.reads.traits
  have hwrites : List.Forall₂ (Writes l) (TraitMaker.sources entry.place) us := by
    rw [hplace]
    exact Attempt.forall₂_comp hmakers hus fun _ m _ hm hu => ⟨m, hm, hu⟩
  have hmodel := scale_of_shown hout.model h.model
  constructor
  · rw [h.rest]
    exact hout.name
  · rw [h.rest]
    exact hout.collision
  · exact h.id
  · exact direction_of_facing h.direction
  · refine ⟨us ++ ts, List.rel_append hwrites hts, ?_⟩
    have hnumber : e.number = 0 := by rw [h.rest, hout.number]
    rw [hout.number, hout.traits, ← List.map_append] at htraits
    rw [hnumber]
    exact htraits
  · exact hmodel.1
  · exact hmodel.2

theorem Carries.raised (h : Carries l entry o e) (k n : Nat) :
    Carries l entry o ((e.numbered k).inWorld n) := by
  obtain ⟨ts, hts, htraits⟩ := h.traits
  refine ⟨h.name, h.collision, h.id, h.direction, ⟨ts, hts, ?_⟩, h.model, h.scale⟩
  rw [List.forall₂_map_left_iff] at htraits ⊢
  refine List.forall₂_map_right_iff.2 (htraits.imp fun t u htu => ?_)
  have hmoved := htu.moved e.number k
  rwa [Trait.moved_hostedBy] at hmoved

end Placement

namespace SceneDraft

section

variable [Application] {l : Loader} {c : Cursor} {start : Start} {d : SceneDraft}

theorem compiles_of_objects {registry : Pool} (h : (objects l c start).result = .ok registry)
    {id : String} {entry : Entry} (hentry : registry.get? id = some entry) :
    ∃ a item, Pool.Compiles l a item (id, entry) := by
  obtain ⟨o, -, pool, ⟨root, -, -, hpool⟩, hmem⟩ := exists_of_objects h hentry
  obtain ⟨a, -, -, hcompiles⟩ := Pool.compile_eq_ok hpool
  obtain ⟨item, -, hitem⟩ := Attempt.exists_mem_of_forall₂ hcompiles hmem
  exact ⟨a, item, hitem⟩

theorem behaves_of_behavior {r : Cursor} {origin : Origin} {e f : Entity} {n : Nat}
    (h : Placement.behavior r = .ok (origin, e))
    (hf : (e.inWorld n).timeshift .none = (f, .ok ())) : Placement.Behaves r f := by
  obtain ⟨b, hb, h⟩ := Attempt.bind_eq_ok_iff.1 h
  obtain ⟨rect, hrect, h⟩ := Attempt.bind_eq_ok_iff.1 h
  obtain ⟨_, hmake, h⟩ := Attempt.bind_eq_ok_iff.1 h
  cases h
  rw [Behavior.timeshift_of_make hmake] at hf
  cases hf
  refine ⟨b, rect, _, hb, hrect, hmake, ?_⟩
  cases b <;> cases hmake <;> rfl

/-- The objects of a draft: what behaves, and then what the layout places. -/
theorem exists_objects (hhost : l.host.Standard) (h : (compile l c start).result = .ok d) :
    ∃ rects es, d.world.objects = rects ++ es ∧ d.world.time = 0 ∧
      List.Forall₂ Placement.Behaves (zoned c) rects ∧
      List.Forall₂ (fun o e => ∃ origin built, Origin.find l d.pool o = .ok origin ∧
        Placement.fresh origin = .ok built ∧ Placement.Stems l o built e) (placed c) es ∧
      d.behaviors.map (·.place) = zoned c ∧ d.behaviors.map (·.seat) = List.range rects.length ∧
      d.layout.map (·.place) = placed c ∧
      d.layout.map (·.seat) = List.range' rects.length es.length := by
  obtain ⟨-, w, w', gravity, hbehaviors, hlayout, hsettled⟩ := compile_eq_ok h
  obtain ⟨rects, rfl, hrects, hplaces, hseats⟩ := Placement.all_eq_ok hbehaviors
  obtain ⟨es, rfl, hes, hplaces', hseats'⟩ := Placement.all_eq_ok hlayout
  obtain ⟨hshift, hworld⟩ := World.settle_eq_ok hsettled
  rw [List.nil_append] at hshift
  obtain ⟨rects', es', hobjects, hrects', hes'⟩ := Attempt.exists_append_of_forall₂ hshift
  rw [List.forall₂_map_left_iff] at hrects' hes'
  have htime : d.world.time = 0 := by
    rw [hworld]
    exact Elapsed.zero_add_toFloat_none
  refine ⟨rects', es', hobjects, htime, ?_, ?_, Placement.map_place_of_seats hplaces, ?_,
    Placement.map_place_of_seats hplaces', ?_⟩
  · refine Attempt.forall₂_comp hrects hrects' ?_
    rintro r e f ⟨origin, hmake⟩ hf
    exact behaves_of_behavior hmake hf
  · refine Attempt.forall₂_comp hes hes' ?_
    rintro o e f ⟨origin, hmake⟩ hf
    obtain ⟨hfind, built, hbuilt, hdressed⟩ := object_eq_ok hmake
    exact ⟨origin, built, hfind, hbuilt, Placement.stems_of_dress hhost hdressed hf⟩
  · rw [hseats, List.range_eq_range', hrects.length_eq, hrects'.length_eq]
    rfl
  · rw [hseats', hes.length_eq, hes'.length_eq, ← hrects'.length_eq]
    simp

end

/-- A scene with something solid and with a crate that is scaled and has a trait of its own. -/
def jetty : Cursor :=
  .ofDocument
    ⟨⟨"scene", [], 1,
      [.element "objects" [] 1 [.element "object" [("id", "crate")] 1
        [.element "geometry" [("w", "16"), ("h", "16")] 1 [],
          .element "traits" [] 1 [.element "trait" [("name", "solid")] 1 []]]],
      .element "layout" [] 1
        [.element "behaviors" [] 1
          [.element "solids" [] 1 [.element "rect" [("w", "64"), ("h", "8")] 1 []]],
        .element "objects" [] 1
          [.element "object" [("id", "crate"), ("instance-id", "left"), ("scale", "2")] 1
            [.element "trait" [("name", "light")] 1 []]]]]⟩, none⟩

end SceneDraft

end Stagecraft
