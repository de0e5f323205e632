import Stagecraft.Proofs.Declarations

/-!
# Instances

What an item of a pool declares comes back in every instance of it: zones and traits one by one in
the order of the document, sounds and sequences by id with the last one of each id, the textures and
animations of the whole document, and a model if there is a geometry. The proof puts together what
was read from the item, which is the blueprint, and what is made of a blueprint.
-/

namespace Stagecraft

open Markup

/-- What is drawn on a plane is not told by the element that describes it. -/
theorem Figure.Describes.redrawn {g : Cursor} {p r : Plane} (h : Figure.Describes g p)
    (hr : p.Redrawn r) : Figure.Describes g r := by
  refine ⟨?_, ?_, ?_, ?_⟩
  · rw [hr.width, hr.height]
    exact h.size
  · rw [hr.across]
    exact h.across
  · rw [hr.down]
    exact h.down
  · rw [hr.faceCount, hr.across, hr.down]
    exact h.faceCount

namespace Blueprint

variable {b : Blueprint}

theorem rel_model {g : Option Cursor} {p : Option Plane} {m : Option Model}
    (hgp : Option.Rel Figure.Describes g p) (hmp : Option.Rel b.ShownOn m p) :
    Option.Rel (fun g m => Figure.Describes g m.plane) g m := by
  cases hgp with
  | none =>
      cases hmp
      exact .none
  | some hg =>
      cases hmp with
      | some hm =>
          exact .some (hg.redrawn hm.1)

theorem picture_of_shown {p : Option Plane} {o : Option Model}
    (h : Option.Rel b.ShownOn o p) {m : Model} (hm : m ∈ o) : m.picture = b.defaultPicture := by
  cases h with
  | none => cases hm
  | some hshown =>
      cases hm
      rw [hshown.2]

end Blueprint

section

variable [Application]

/-- An entity element that is no registered character and has no text, at most one geometry, traits
with different labels and faces with quads that are not negative. -/
structure Regular (host : Registrations) (item : Cursor) : Prop where
  type : item.get? "type" ≠ some "character"
  text : item.tagged "text" = []
  geometry : (item.tagged "geometry").length ≤ 1
  traits : ∀ ms, (TraitMaker.sources item).mapM (TraitMaker.ofElement (some host)) = .ok ms →
    (ms.map fun m => m.base.label).Nodup
  quads : ∀ g ∈ item.tagged "geometry", ∀ face ∈ g.tagged "face",
    ∀ quads, FaceBinding.quads face = .ok quads → ∀ q ∈ quads, 0 ≤ q

/-- Without faces there are no quads, and the labels of traits can be looked at. -/
theorem Regular.of_labels {host : Registrations} {item : Cursor} (labels : List String)
    (htype : item.get? "type" ≠ some "character") (htext : (item.tagged "text").length = 0)
    (hgeometry : (item.tagged "geometry").length ≤ 1)
    (hfaces : ∀ g ∈ item.tagged "geometry", (g.tagged "face").length = 0)
    (htraits : ((TraitMaker.sources item).mapM (TraitMaker.ofElement (some host))).toOption.map
      (fun ms => ms.map fun m => m.base.label) = some labels)
    (hlabels : labels.Nodup) : Regular host item := by
  refine ⟨htype, List.length_eq_zero_iff.1 htext, hgeometry, ?_, ?_⟩
  · intro ms hms
    rw [hms] at htraits
    cases htraits
    exact hlabels
  · intro g hg face hface
    rw [List.length_eq_zero_iff.1 (hfaces g hg)] at hface
    cases hface

/-- A trait was made as an element describes it, and has the entity with some number as its
host. -/
def Trait.Describes (host : Registrations) (n : Nat) (d : Cursor) (t : Trait) : Prop :=
  ∃ m made, TraitMaker.ofElement (some host) d = .ok m ∧ m.make = .ok made ∧ t = made.hostedBy n

namespace Entity

/-- An entity has what an item of a pool declares, and nothing else. -/
structure Embodies (l : Loader) (c item : Cursor) (e : Entity) : Prop where
  name : e.name = item.get? "id"
  collision : List.Forall₂ Zone.Describes (Zone.elements item) e.collision
  traits : List.Forall₂ (Trait.Describes l.host e.number) (TraitMaker.sources item) e.traits
  sounds : e.audio.keys.Nodup
  audio : ∀ id, Option.Rel (fun d clip => (l.clipOf d).run.1 = .ok clip)
    (Cursor.lastWith (Clip.sources item) id) (e.audio.get? id)
  scripts : e.sequencer.sequences.keys.Nodup
  sequences : ∀ id,
    Option.Rel (fun d steps => (d.childrenTagged "step").mapM Action.allOf = .ok steps)
      (Cursor.lastWith (SequenceDef.sources item) id) (e.sequencer.sequences.get? id)
  atlas : (Pool.atlas l c).run.1 = .ok ⟨e.textures, e.animations⟩
  model : Option.Rel (fun g m => Figure.Describes g m.plane) (item.tagged "geometry").head? e.model
  picture : ∀ m ∈ e.model, m.picture = (e.textures.get? Catalog.defaultKey).bind (·.picture) ∧
    (m.picture.isSome ↔ c.find (Selector.ofString "textures > texture") ≠ [])

end Entity

namespace Blueprint

variable {l : Loader} {a : Atlas} {c item : Cursor} {b : Blueprint}

theorem base_of_regular (hitem : Regular l.host item) (h : Reads l.host a item b) :
    b.base = EntityClass.plain := by
  have hbase := h.base
  unfold baseOf at hbase
  rw [if_pos hitem.type] at hbase
  exact (Except.ok.inj hbase).symm

theorem buildable_of_regular (hitem : Regular l.host item) (h : Reads l.host a item b) :
    b.Buildable := by
  have hsimple := Figure.simple_of_ofElement hitem.text hitem.geometry h.figure
  refine ⟨hitem.traits _ (Attempt.mapM_eq_ok_iff.2 (TraitMaker.forall₂_of_declared h.traits)), ?_⟩
  intro p _ q hq
  have hnonneg : 0 ≤ q := by
    obtain ⟨an, han, hq⟩ := List.mem_flatMap.1 hq
    have hmem : q ∈ an.quads := by
      unfold Animator.drawnQuads at hq
      split at hq
      · exact hq
      · cases hq
    rcases hsimple.quads an han with hone | ⟨g, hg, face, hface, hquads⟩
    · rw [hone, List.mem_singleton] at hmem
      omega
    · exact hitem.quads g hg face hface _ hquads q hmem
  rw [Plane.takes_iff]
  omega

/-- What an instance has from its blueprint is what the item declares. -/
theorem embodies_of_outfitted (hitem : Regular l.host item) (hid : item.get? "id" = some b.id)
    (hatlas : (Pool.atlas l c).run.1 = .ok a) (h : Reads l.host a item b)
    (haudio : (Clip.allOf l item).run.1 = .ok b.audio) {ts : List Trait} {e : Entity}
    (hts : List.Forall₂ (fun m t => m.make = .ok t) b.traits ts) (he : b.Outfitted ts e) :
    e.Embodies l c item := by
  have hsimple := Figure.simple_of_ofElement hitem.text hitem.geometry h.figure
  have htextures : b.textures = a.textures := hsimple.textures
  obtain ⟨hsounds, hclips⟩ := Clip.rel_of_allOf haudio
  obtain ⟨hscripts, hsequences⟩ := SequenceDef.rel_of_declared h.sequences
  constructor
  · rw [he.name, hid]
  · rw [he.collision]
    exact Zone.describes_of_allOf h.collision
  · rw [he.traits, he.number, List.forall₂_map_right_iff]
    exact Attempt.forall₂_comp (TraitMaker.forall₂_of_declared h.traits) hts
      fun _ m t hm ht => ⟨m, t, hm, ht, rfl⟩
  · rwa [he.audio]
  · rwa [he.audio]
  · rwa [he.sequencer]
  · rwa [he.sequencer]
  · rw [he.textures, he.animations, htextures, h.animations, hatlas]
  · exact rel_model hsimple.planes he.model
  · intro m hm
    have hpicture : m.picture = (e.textures.get? Catalog.defaultKey).bind (·.picture) := by
      rw [he.textures]
      exact picture_of_shown he.model hm
    refine ⟨hpicture, ?_⟩
    rw [hpicture, he.textures, htextures]
    exact Pool.isSome_defaultPicture_iff hatlas

end Blueprint

namespace Pool

/-- Every call of the constructor of an item gives an instance of what the item declares, and all
instances are equal. -/
theorem embodies_of_item {l : Loader} {c : Cursor} {pool : Pool}
    (hpool : (Pool.ofElement l c).run.1 = .ok pool) {item : Cursor}
    (hmem : item ∈ c.childrenTagged (itemTag c)) (hitem : Regular l.host item)
    (hsuits : TraitMaker.SuitsAll l.host item) :
    ∃ id entry e, item.get? "id" = some id ∧ pool.get? id = some entry ∧ entry.place = item ∧
      (∀ n, (List.replicate n entry.blueprint).mapM Blueprint.build =
        .ok (List.replicate n e)) ∧
      e.Embodies l c item := by
  obtain ⟨a, hatlas, hkeys, hentries⟩ := compile_eq_ok hpool
  obtain ⟨⟨id, entry⟩, hentry, h⟩ := Attempt.exists_mem_of_forall₂_left hentries hmem
  have hbase := Blueprint.base_of_regular hitem h.reads
  have hready := TraitMaker.ready_of_declared hsuits h.reads.traits
  have hid : item.get? "id" = some entry.blueprint.id := by
    rw [h.reads.id, h.id]
    rfl
  obtain ⟨ts, e, he, hts, hout⟩ := Blueprint.build_of_buildable hbase hready
    (Blueprint.buildable_of_regular hitem h.reads)
  refine ⟨id, entry, e, h.id, Catalog.get?_of_mem hkeys hentry, h.place, ?_, ?_⟩
  · intro n
    exact Attempt.mapM_replicate he n
  · exact Blueprint.embodies_of_outfitted hitem hid hatlas h.reads h.audio hts hout

end Pool

end

namespace Pool

/-- A host application with a trait of its own, which attaches as the built-in ones do and cannot be
given what to spawn. -/
@[reducible] def gleaming : Application :=
  { Application.bare with
    fresh := fun f => .ok { kind := .registered f "glow", fields := [("enabled", .truth true)] }
    attach := fun _ t e => ({ e with bus := t.bindOn e.bus }, t.hostedBy e.number, .ok ()) }

theorem ordinary_gleaming (f : Foreign) :
    letI := gleaming
    TraitClass.Ordinary (.registered f "glow") := by
  let _ := gleaming
  refine ⟨?_, ?_, ?_, ?_⟩
  · intro t h
    cases h
    rfl
  · intro t h
    cases h
    rfl
  · intro t u x ht h
    unfold Trait.addCondition at h
    rw [ht] at h
    cases h
  · intro t e ht
    unfold Trait.attach
    rw [ht]
    rfl

/-- A loader for which the application has registered its trait under a name, and something that may
be spawned. -/
def glowing (name : String) : Loader where
  host :=
    { traits := [(name, .registered ⟨"Glow", 0⟩ "glow")]
      resources := [("object", [("egg", .object (.maker .plain))])] }

theorem eq_of_glowing {name other : String} {k : TraitClass}
    (h : (glowing name).host.traits.get? other = some k) :
    other = name ∧ k = .registered ⟨"Glow", 0⟩ "glow" := by
  simpa [glowing, Catalog.get?, eq_comm] using h

/-- A pool of one entity with a geometry, a zone and two traits. -/
def crate : Cursor :=
  .ofDocument
    ⟨⟨"entities", [], 1, [.element "entity" [("id", "crate")] 1
      [.element "geometry" [("w", "16"), ("h", "16")] 1 [],
        .element "collision" [] 1 [.element "rect" [("w", "16"), ("h", "16")] 1 []],
        .element "traits" [] 1 [.element "trait" [("name", "solid")] 1 [],
          .element "trait" [("name", "glow")] 1 []]]]⟩, none⟩

def crateItem : Cursor := (crate.child? 0).getD crate

theorem embodies_of_item_crate :
    letI := gleaming
    ∃ pool entry e, (Pool.ofElement (glowing "glow") crate).run.1 = .ok pool ∧
      crateItem ∈ crate.childrenTagged (itemTag crate) ∧ pool.get? "crate" = some entry ∧
      entry.blueprint.build = .ok e ∧ e.Embodies (glowing "glow") crate crateItem := by
  let _ := gleaming
  have hmem : crateItem ∈ crate.childrenTagged (itemTag crate) := List.mem_singleton.2 rfl
  have hregular : Regular (glowing "glow").host crateItem :=
    .of_labels ["solid", "glow"] (by decide) (by decide) (by decide) (by decide)
      (by decide +kernel) (by decide)
  have hsuits : TraitMaker.SuitsAll (glowing "glow").host crateItem := by
    intro c _ name k _ hk
    obtain ⟨rfl, rfl⟩ := eq_of_glowing hk
    exact ⟨ordinary_gleaming _, fun h => absurd h (by decide)⟩
  have hok : (Pool.ofElement (glowing "glow") crate).run.1.toOption.isSome := by decide +kernel
  cases hpool : (Pool.ofElement (glowing "glow") crate).run.1 with
  | error f =>
      rw [hpool] at hok
      cases hok
  | ok pool =>
      obtain ⟨id, entry, e, hid, hentry, -, hbuild, he⟩ :=
        embodies_of_item hpool hmem hregular hsuits
      have hcrate : crateItem.get? "id" = some "crate" := by decide
      cases hcrate.symm.trans hid
      obtain ⟨f, hf, h⟩ := Attempt.bind_eq_ok_iff.1 (hbuild 1)
      cases h
      exact ⟨pool, entry, e, rfl, hmem, hentry, hf, he⟩

/-- An entity that compiles has no instances, as none can be built. -/
theorem exists_unbuilt [Application] {l : Loader} {c item : Cursor} {id : String}
    (hid : item.get? "id" = some id)
    (h : ((Pool.ofElement l c).run.1.toOption.bind (·.get? id)).map
      (·.blueprint.build.toOption.isSome) = some false) :
    ∃ pool, (Pool.ofElement l c).run.1 = .ok pool ∧
      ¬ ∃ id entry e, item.get? "id" = some id ∧ pool.get? id = some entry ∧ entry.place = item ∧
        (∀ n, (List.replicate n entry.blueprint).mapM Blueprint.build =
          .ok (List.replicate n e)) ∧
        e.Embodies l c item := by
  cases hpool : (Pool.ofElement l c).run.1 with
  | error f =>
      rw [hpool] at h
      cases h
  | ok pool =>
      refine ⟨pool, rfl, ?_⟩
      rintro ⟨id', entry, e, hid', hentry, -, hbuild, -⟩
      cases hid.symm.trans hid'
      obtain ⟨f, hf, -⟩ := Attempt.bind_eq_ok_iff.1 (hbuild 1)
      rw [hpool] at h
      simp [Except.toOption, hentry, hf] at h

/-- A pool of one entity that spawns something. -/
def nest : Cursor :=
  .ofDocument
    ⟨⟨"entities", [], 1, [.element "entity" [("id", "nest")] 1
      [.element "traits" [] 1 [.element "trait" [("name", "spawn")] 1
        [.element "item" [("event", "hatch"), ("object", "egg")] 1 []]]]]⟩, none⟩

/-- A host application with a trait of its own, which cannot be attached. -/
@[reducible] def loose : Application :=
  { gleaming with attach := fun _ t e => (e, t, .error .typeMismatch) }

/-- A trait that the host application has in place of the built-in one may not take what it is to
spawn, and a trait of its own may not be attached. Items that ask for them have no instances. -/
theorem not_embodies_of_registered :
    (letI : Application := gleaming
    ¬ ∀ (l : Loader) (c : Cursor) (pool : Pool), (Pool.ofElement l c).run.1 = .ok pool →
        ∀ item ∈ c.childrenTagged (itemTag c), Regular l.host item →
          (∀ name k, l.host.traits.get? name = some k → k.Ordinary) →
          ∃ id entry e, item.get? "id" = some id ∧ pool.get? id = some entry ∧
            entry.place = item ∧
            (∀ n, (List.replicate n entry.blueprint).mapM Blueprint.build =
              .ok (List.replicate n e)) ∧
            e.Embodies l c item) ∧
    letI := loose
    ¬ ∀ (l : Loader) (c : Cursor) (pool : Pool), (Pool.ofElement l c).run.1 = .ok pool →
        ∀ item ∈ c.childrenTagged (itemTag c), Regular l.host item →
          (∀ d ∈ TraitMaker.sources item, TraitMaker.nameOf d ≠ some "spawn") →
          ∃ id entry e, item.get? "id" = some id ∧ pool.get? id = some entry ∧
            entry.place = item ∧
            (∀ n, (List.replicate n entry.blueprint).mapM Blueprint.build =
              .ok (List.replicate n e)) ∧
            e.Embodies l c item := by
  constructor
  · let _ := gleaming
    intro hall
    let item := (nest.child? 0).getD nest
    have hmem : item ∈ nest.childrenTagged (itemTag nest) := List.mem_singleton.2 rfl
    have hitem : Regular (glowing "spawn").host item :=
      .of_labels ["glow"] (by decide) (by decide) (by decide) (by decide) (by decide +kernel)
        (by decide)
    have hid : item.get? "id" = some "nest" := by decide
    obtain ⟨pool, hpool, hnone⟩ := exists_unbuilt (l := glowing "spawn") (c := nest) hid
      (by decide +kernel)
    refine hnone (hall _ nest pool hpool item hmem hitem fun name k hk => ?_)
    rw [(eq_of_glowing hk).2]
    exact ordinary_gleaming _
  · let _ := loose
    intro hall
    have hmem : crateItem ∈ crate.childrenTagged (itemTag crate) := List.mem_singleton.2 rfl
    have hitem : Regular (glowing "glow").host crateItem :=
      .of_labels ["solid", "glow"] (by decide) (by decide) (by decide) (by decide)
        (by decide +kernel) (by decide)
    have hid : crateItem.get? "id" = some "crate" := by decide
    obtain ⟨pool, hpool, hnone⟩ := exists_unbuilt (l := glowing "glow") (c := crate) hid
      (by decide +kernel)
    exact hnone (hall _ crate pool hpool crateItem hmem hitem (by decide))

end Pool

end Stagecraft
