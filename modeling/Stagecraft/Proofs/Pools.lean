import Stagecraft.Proofs.Catalogs
import Stagecraft.Proofs.Waiting
import Stagecraft.Entity.Pool

/-!
# What pools are compiled from

A pool that is compiled has an entry for each of its items, in order, and each entry was read from
its item with one atlas for all. Loads have their say in the time that this takes, but what comes of
it does not depend on when they were started.
-/

namespace Stagecraft

open Markup

/-- The elements with a tag directly inside the children with another tag. -/
def Markup.Cursor.inside (c : Cursor) (outer inner : String) : List Cursor :=
  (c.childrenTagged outer).flatMap (·.childrenTagged inner)

/-- What the children with a tag declare is read from what is inside them, one after the other. -/
theorem forall₂_of_declared {α : Type} {c : Cursor} {tag : String}
    {read : Cursor → Except Fault (List α)} {inside : Cursor → List Cursor}
    {f : Cursor → Except Fault α} {xs : List α}
    (hread : ∀ d ys, read d = .ok ys → List.Forall₂ (fun e y => f e = .ok y) (inside d) ys)
    (h : declared c tag read = .ok xs) :
    List.Forall₂ (fun e x => f e = .ok x) ((c.childrenTagged tag).flatMap inside) xs := by
  obtain ⟨found, hfound, h⟩ := Attempt.bind_eq_ok_iff.1 h
  cases h
  have hall (ds : List Cursor) (yss : List (List α))
      (hds : List.Forall₂ (fun d ys => read d = .ok ys) ds yss) :
      List.Forall₂ (fun e x => f e = .ok x) (ds.flatMap inside) yss.flatten := by
    induction hds with
    | nil => exact .nil
    | cons hd _ ih =>
        rw [List.flatMap_cons, List.flatten_cons]
        exact List.rel_append (hread _ _ hd) ih
  exact hall _ _ (Attempt.mapM_eq_ok_iff.1 hfound)

namespace Loader

variable (l : Loader) (c : Cursor)

theorem steady_fetch (url : String) : (l.fetch url).Steady :=
  (Timed.Steady.lift _).bind fun _ => .load _ _

theorem steady_loadDocument (url : String) : (l.loadDocument url).Steady :=
  (l.steady_fetch url).bind fun _ => (Timed.Steady.lift _).bind fun _ => .pure _

theorem steady_loadPicture (url : String) : (l.loadPicture url).Steady :=
  ((l.steady_fetch url).bind fun _ => .load _ _).tracked

theorem steady_loadClip (url : String) : (l.loadClip url).Steady :=
  ((l.steady_fetch url).bind fun _ => .pure _).tracked

theorem steady_follow : (l.follow c).Steady := by
  refine (Timed.Steady.lift _).bind fun url => ?_
  cases url with
  | none => exact .pure _
  | some url => exact l.steady_loadDocument url

theorem steady_clipOf : (l.clipOf c).Steady := by
  refine (Timed.Steady.lift _).bind fun url => ?_
  cases url with
  | none => exact .lift _
  | some url => exact l.steady_loadClip url

theorem steady_pictureOf : (l.pictureOf c).Steady := by
  refine (Timed.Steady.lift _).bind fun url => ?_
  cases url with
  | none => exact .lift _
  | some url => exact l.steady_loadPicture url

end Loader

namespace Clip

theorem steady_clips (l : Loader) (sounds : List (String × Cursor)) :
    ∀ w ∈ sounds.map fun sound => l.clipOf sound.2, w.Steady := by
  intro w hw
  obtain ⟨sound, -, rfl⟩ := List.mem_map.1 hw
  exact l.steady_clipOf sound.2

theorem steady_allOf (l : Loader) (c : Cursor) : (allOf l c).Steady :=
  (Timed.Steady.lift _).bind fun sounds =>
    (Timed.Steady.gather (steady_clips l sounds)).bind fun _ => .pure _

end Clip

namespace Pool

theorem steady_texture (l : Loader) (serial : Nat) (c : Cursor) : (texture l serial c).Steady :=
  (l.steady_pictureOf c).bind fun _ => (Timed.Steady.lift _).bind fun _ => .pure _

theorem steady_textureList (l : Loader) (elements : List (Cursor × Nat)) :
    ∀ w ∈ elements.map fun e => texture l e.2 e.1, w.Steady := by
  intro w hw
  obtain ⟨e, -, rfl⟩ := List.mem_map.1 hw
  exact steady_texture l e.2 e.1

theorem steady_textures (l : Loader) (c : Cursor) : (textures l c).Steady :=
  (Timed.Steady.gather (steady_textureList l _)).bind fun _ => .pure _

theorem steady_atlas (l : Loader) (c : Cursor) : (atlas l c).Steady :=
  (steady_textures l c).bind fun _ => (Timed.Steady.lift _).bind fun _ => .pure _

variable [Application]

theorem steady_blueprint (l : Loader) (a : Atlas) (c : Cursor) :
    (Blueprint.ofElement l a c).Steady :=
  (Timed.Steady.lift _).bind fun _ => (Clip.steady_allOf l c).bind fun _ => .pure _

theorem steady_blueprints (l : Loader) (a : Atlas) (items : Catalog Cursor) :
    ∀ w ∈ items.map fun item => Blueprint.ofElement l a item.2, w.Steady := by
  intro w hw
  obtain ⟨item, -, rfl⟩ := List.mem_map.1 hw
  exact steady_blueprint l a item.2

theorem steady_ofElement (l : Loader) (c : Cursor) : (ofElement l c).Steady := by
  refine Timed.Steady.task ?_ 1 2
  refine (Timed.Steady.lift _).bind fun items => (steady_atlas l c).bind fun a =>
    (Timed.Steady.gather (steady_blueprints l a items)).bind fun _ =>
      Timed.Steady.bind (.forIn fun b _ => ?_) fun _ => .pure _
  split
  · exact .pure _
  · exact (Timed.Steady.notice _).bind fun _ => .pure _

end Pool

namespace Blueprint

variable [Application]

/-- What the parts of an entity element say, all in all. -/
structure Reads (host : Registrations) (a : Atlas) (c : Cursor) (b : Blueprint) : Prop where
  id : b.id = (c.get? "id").getD ""
  base : baseOf host c = .ok b.base
  figure : Figure.ofElement host a b.id c = .ok ⟨b.planes, b.animators, b.textures⟩
  animations : b.animations = a.animations
  collision : Zone.allOf c = .ok b.collision
  events : declared c "events" EventBinding.allOf = .ok b.events
  traits : declared c "traits" (TraitMaker.allOf (some host)) = .ok b.traits
  sequences : declared c "sequences" SequenceDef.allOf = .ok b.sequences
  router : AnimationRouter.ofElement host c = .ok b.router

theorem reads_of_silent {host : Registrations} {a : Atlas} {c : Cursor} {b : Blueprint}
    (h : silent host a c = .ok b) : Reads host a c b := by
  unfold silent at h
  obtain ⟨base, hbase, h⟩ := Attempt.bind_eq_ok_iff.1 h
  obtain ⟨figure, hfigure, h⟩ := Attempt.bind_eq_ok_iff.1 h
  obtain ⟨collision, hcollision, h⟩ := Attempt.bind_eq_ok_iff.1 h
  obtain ⟨events, hevents, h⟩ := Attempt.bind_eq_ok_iff.1 h
  obtain ⟨traits, htraits, h⟩ := Attempt.bind_eq_ok_iff.1 h
  obtain ⟨sequences, hsequences, h⟩ := Attempt.bind_eq_ok_iff.1 h
  obtain ⟨router, hrouter, h⟩ := Attempt.bind_eq_ok_iff.1 h
  cases h
  exact ⟨rfl, hbase, hfigure, rfl, hcollision, hevents, htraits, hsequences, hrouter⟩

/-- The sounds are added to what is read from the element. -/
theorem ofElement_eq_ok {l : Loader} {a : Atlas} {c : Cursor} {b : Blueprint} {s : Start}
    (h : (ofElement l a c s).result = .ok b) :
    Reads l.host a c b ∧ (Clip.allOf l c).run.1 = .ok b.audio := by
  obtain ⟨b, hb, h⟩ := Timed.bind_eq_ok_iff.1 h
  obtain ⟨clips, hclips, h⟩ := Timed.bind_eq_ok_iff.1 h
  cases h
  have hr := reads_of_silent hb
  exact ⟨⟨hr.id, hr.base, hr.figure, hr.animations, hr.collision, hr.events, hr.traits,
    hr.sequences, hr.router⟩, (Clip.steady_allOf l c).run hclips⟩

end Blueprint

namespace Pool

theorem addItem_eq_ok {tag : String} {found next : Catalog Cursor} {item : Cursor}
    (h : addItem tag found item = .ok next) :
    ∃ id, item.get? "id" = some id ∧ id ≠ "" ∧ id ∉ found.keys ∧ next = found ++ [(id, item)] := by
  unfold addItem at h
  split at h
  · cases h
  · rename_i id hid
    obtain ⟨hid, hne⟩ := Option.filter_eq_some_iff.1 hid
    split at h
    · cases h
    · rename_i hhas
      cases h
      refine ⟨id, hid, by simpa using hne, ?_, Catalog.put_of_not_has _ (by simpa using hhas)⟩
      rwa [← Catalog.has_iff_mem_keys]

/-- The items are kept in order, each under its own id. -/
theorem addItems_eq_ok {tag : String} {items : List Cursor} {found next : Catalog Cursor}
    (hfound : found.keys.Nodup) (h : items.foldlM (addItem tag) found = .ok next) :
    next.keys.Nodup ∧ ∃ more, next = found ++ more ∧
      List.Forall₂ (fun item e => item.get? "id" = some e.1 ∧ e.1 ≠ "" ∧ e.2 = item)
        items more := by
  induction items generalizing found with
  | nil =>
      cases h
      exact ⟨hfound, [], (List.append_nil _).symm, .nil⟩
  | cons item items ih =>
      obtain ⟨mid, hmid, h⟩ := Attempt.bind_eq_ok_iff.1 h
      obtain ⟨id, hid, hne, hnew, rfl⟩ := addItem_eq_ok hmid
      have hkeys : (found ++ [(id, item)]).keys.Nodup := by
        have happ : Catalog.keys (found ++ [(id, item)]) = found.keys ++ [id] := by
          simp [Catalog.keys]
        rw [happ]
        exact List.nodup_append.2 ⟨hfound, List.nodup_singleton id, fun x hx y hy hxy =>
          hnew (List.mem_singleton.1 hy ▸ hxy ▸ hx)⟩
      obtain ⟨hnodup, more, rfl, hmore⟩ := ih hkeys h
      exact ⟨hnodup, (id, item) :: more, by simp, .cons ⟨hid, hne, rfl⟩ hmore⟩

theorem items_eq_ok {c : Cursor} {found : Catalog Cursor} (h : items c = .ok found) :
    found.keys.Nodup ∧
      List.Forall₂ (fun item e => item.get? "id" = some e.1 ∧ e.1 ≠ "" ∧ e.2 = item)
        (c.childrenTagged (itemTag c)) found := by
  obtain ⟨hnodup, more, rfl, hmore⟩ := addItems_eq_ok Catalog.nodup_keys_nil h
  exact ⟨hnodup, hmore⟩

variable [Application]

/-- An entry was compiled from an item. -/
structure Compiles (l : Loader) (a : Atlas) (item : Cursor) (e : String × Entry) : Prop where
  id : item.get? "id" = some e.1
  ne : e.1 ≠ ""
  place : e.2.place = item
  reads : Blueprint.Reads l.host a item e.2.blueprint
  audio : (Clip.allOf l item).run.1 = .ok e.2.blueprint.audio

/-- A compiled pool has an entry for each item, read from it with the atlas of the document. -/
theorem compile_eq_ok {l : Loader} {c : Cursor} {pool : Pool} {s : Start}
    (h : (compile l c s).result = .ok pool) :
    ∃ a, (atlas l c).run.1 = .ok a ∧ pool.keys.Nodup ∧
      List.Forall₂ (Compiles l a) (c.childrenTagged (itemTag c)) pool := by
  obtain ⟨items, hitems, h⟩ := Timed.bind_eq_ok_iff.1 h
  obtain ⟨a, ha, h⟩ := Timed.bind_eq_ok_iff.1 h
  obtain ⟨blueprints, hbs, h⟩ := Timed.bind_eq_ok_iff.1 h
  obtain ⟨u, -, h⟩ := Timed.bind_eq_ok_iff.1 h
  cases h
  obtain ⟨hnodup, hitems⟩ := items_eq_ok hitems
  rw [Timed.Steady.gather_eq_ok_iff (steady_blueprints l a items), List.forall₂_map_left_iff] at hbs
  refine ⟨a, (steady_atlas l c).run ha, ?_, ?_⟩
  · have hlen : items.length ≤ blueprints.length := Nat.le_of_eq hbs.length_eq
    have hkeys : Catalog.keys ((items.zip blueprints).map fun e =>
        (e.1.1, (⟨e.1.2, e.2⟩ : Entry))) = items.keys := by
      have hfst : (items.zip blueprints).map Prod.fst = items := List.map_fst_zip hlen
      calc Catalog.keys ((items.zip blueprints).map fun e => (e.1.1, (⟨e.1.2, e.2⟩ : Entry)))
          = ((items.zip blueprints).map Prod.fst).map Prod.fst := by simp [Catalog.keys]
        _ = items.keys := by rw [hfst]; rfl
    rw [hkeys]
    exact hnodup
  · rw [List.forall₂_map_right_iff]
    refine Attempt.forall₂_zip hitems hbs fun item e b hitem hb => ?_
    obtain ⟨hid, hne, rfl⟩ := hitem
    obtain ⟨hreads, haudio⟩ := Blueprint.ofElement_eq_ok hb
    exact ⟨hid, hne, rfl, hreads, haudio⟩

/-- An entry of a pool with a property that can be looked up. -/
theorem exists_entry (l : Loader) (c : Cursor) (id : String) (q : Entry → Bool)
    (h : ((Pool.ofElement l c).run.1.toOption.bind (·.get? id)).map q = some true) :
    ∃ pool entry, (Pool.ofElement l c).run.1 = .ok pool ∧ pool.get? id = some entry ∧ q entry := by
  cases hpool : (Pool.ofElement l c).run.1 with
  | error f =>
      rw [hpool] at h
      cases h
  | ok pool =>
      rw [hpool] at h
      obtain ⟨entry, hentry, hq⟩ := Option.map_eq_some_iff.1 h
      exact ⟨pool, entry, rfl, hentry, hq⟩

end Pool

end Stagecraft
