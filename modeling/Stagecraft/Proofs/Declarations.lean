import Stagecraft.Proofs.Constructors

/-!
# What elements declare

Each part of an entity is found in its own way: as the first element below with a tag, as all of
them, or as what is inside the children with a tag. Here the readers are turned around: from what
was read, to the elements it was read from, in their order. Where several elements have one id, the
last of them counts.
-/

namespace Stagecraft

namespace Markup

namespace Cursor

/-- The elements below with a tag, in document order. -/
def tagged (c : Cursor) (tag : String) : List Cursor := c.descendants.filter (·.tag = tag)

/-- The last of some elements with an id. -/
def lastWith (cs : List Cursor) (id : String) : Option Cursor :=
  (cs.filter (·.get? "id" = some id)).getLast?

theorem matchesSelector_singleton (c : Cursor) {name : String} (h : name ≠ "*") :
    c.matchesSelector [[name]] = decide (c.tag = name) := by
  simp [matchesSelector, Selector.lineageMatches, Selector.tagMatches, lineage, h]
  rfl

theorem find_singleton (c : Cursor) {name : String} (h : name ≠ "*") :
    c.find [[name]] = c.tagged name := by
  unfold find tagged
  congr 1
  funext d
  exact matchesSelector_singleton d h

/-- Of elements and entries with the same ids, the last ones with an id belong together. -/
theorem rel_lastWith {α : Type} {R : Cursor → α → Prop} {cs : List Cursor}
    {entries : List (String × α)}
    (h : List.Forall₂ (fun c e => c.get? "id" = some e.1 ∧ R c e.2) cs entries) (id : String) :
    Option.Rel R (lastWith cs id) ((entries.filter (·.1 = id)).getLast?.map (·.2)) := by
  have hfilter : List.Forall₂ (fun c e => R c e.2) (cs.filter (·.get? "id" = some id))
      (entries.filter (·.1 = id)) := by
    induction h with
    | nil => exact .nil
    | @cons c e cs entries hce _ ih =>
        obtain ⟨hid, hR⟩ := hce
        by_cases he : e.1 = id
        · rw [List.filter_cons_of_pos (by simp [hid, he]), List.filter_cons_of_pos (by simp [he])]
          exact .cons hR ih
        · rw [List.filter_cons_of_neg (by simp [hid, he]), List.filter_cons_of_neg (by simp [he])]
          exact ih
  -- The last ones are the first ones from behind.
  have hhead (ds : List Cursor) (es : List (String × α))
      (hde : List.Forall₂ (fun c e => R c e.2) ds es) :
      Option.Rel R ds.head? (es.head?.map (·.2)) := by
    cases hde with
    | nil => exact .none
    | cons hR _ => exact .some hR
  unfold lastWith
  rw [List.getLast?_eq_head?_reverse, List.getLast?_eq_head?_reverse]
  exact hhead _ _ (List.forall₂_reverse_iff.2 hfilter)

end Cursor

end Markup

open Markup

namespace Zone

/-- An element describes a zone. -/
def Describes (c : Cursor) : Zone → Prop
  | rect w h x y =>
    c.tag = "rect" ∧ c.real? "w" = .ok (some w) ∧ c.real? "h" = .ok (some h) ∧
      c.real "x" 0 = .ok x ∧ c.real "y" 0 = .ok y
  | circle r x y =>
    c.tag = "circ" ∧ c.real? "r" = .ok (some r) ∧ c.real "x" 0 = .ok x ∧ c.real "y" 0 = .ok y

theorem describes_of_ofElement {c : Cursor} {z : Zone} (h : ofElement c = .ok z) :
    Describes c z := by
  unfold ofElement at h
  split at h
  · rename_i htag
    obtain ⟨r, hr, rfl⟩ := Attempt.map_eq_ok_iff.1 h
    unfold Cursor.rect at hr
    obtain ⟨w, hw, hr⟩ := Attempt.bind_eq_ok_iff.1 hr
    obtain ⟨height, hheight, hr⟩ := Attempt.bind_eq_ok_iff.1 hr
    split at hr
    · obtain ⟨x, hx, hr⟩ := Attempt.bind_eq_ok_iff.1 hr
      obtain ⟨y, hy, hr⟩ := Attempt.bind_eq_ok_iff.1 hr
      cases hr
      exact ⟨htag, hw, hheight, hx, hy⟩
    · cases hr
  · rename_i htag
    obtain ⟨r, hr, h⟩ := Attempt.bind_eq_ok_iff.1 h
    split at h
    · cases h
    · obtain ⟨x, hx, h⟩ := Attempt.bind_eq_ok_iff.1 h
      obtain ⟨y, hy, h⟩ := Attempt.bind_eq_ok_iff.1 h
      cases h
      exact ⟨htag, hr, hx, hy⟩
  · cases h

/-- The elements that describe the zones of an entity: those inside the first collision element
below it. -/
def elements (c : Cursor) : List Cursor :=
  ((c.tagged "collision").head?.map Cursor.children).getD []

theorem describes_of_allOf {c : Cursor} {zs : List Zone} (h : allOf c = .ok zs) :
    List.Forall₂ Describes (elements c) zs := by
  have hsel : Selector.ofString "collision" = [["collision"]] := by decide
  unfold allOf at h
  rw [Cursor.first?_eq_head?, hsel, Cursor.find_singleton c (by decide)] at h
  unfold elements
  cases hc : (c.tagged "collision").head? with
  | none =>
      rw [hc] at h
      cases h
      exact .nil
  | some collision =>
      rw [hc] at h
      exact (Attempt.mapM_eq_ok_iff.1 h).imp fun _ _ => describes_of_ofElement

end Zone

namespace Clip

/-- The elements that describe the sounds of a host. -/
def sources (c : Cursor) : List Cursor := (c.childrenTagged "audio").flatMap Cursor.children

theorem forall₂_of_elements {c : Cursor} {sounds : List (String × Cursor)}
    (h : elements c = .ok sounds) :
    List.Forall₂ (fun d e => d.get? "id" = some e.1 ∧ e.2 = d) (sources c) sounds := by
  have hread := Attempt.mapM_eq_ok_iff.1 h
  have hsources : ((c.childrenTagged "audio").map Cursor.children).flatten = sources c := rfl
  rw [hsources] at hread
  refine hread.imp fun d e hd => ?_
  split at hd
  · rename_i id hid
    cases hd
    exact ⟨(Option.filter_eq_some_iff.1 hid).1, rfl⟩
  · cases hd

theorem rel_of_allOf {l : Loader} {c : Cursor} {clips : Catalog Clip}
    (h : (allOf l c).run.1 = .ok clips) :
    clips.keys.Nodup ∧ ∀ id, Option.Rel (fun sound clip => (l.clipOf sound).run.1 = .ok clip)
      (Cursor.lastWith (sources c) id) (clips.get? id) := by
  obtain ⟨sounds, hsounds, h⟩ := Timed.bind_eq_ok_iff.1 h
  obtain ⟨values, hvalues, h⟩ := Timed.bind_eq_ok_iff.1 h
  cases h
  refine ⟨Catalog.nodup_keys_putAll Catalog.nodup_keys_nil _, fun id => ?_⟩
  rw [Catalog.get?_putAll, Catalog.get?_nil, Option.or_none]
  refine Cursor.rel_lastWith ?_ id
  have hids := forall₂_of_elements hsounds
  rw [Timed.Steady.gather_eq_ok_iff (steady_clips l sounds), List.forall₂_map_left_iff] at hvalues
  have hzip : List.Forall₂ (fun d e => d.get? "id" = some e.1.1 ∧ (l.clipOf d).run.1 = .ok e.2)
      (sources c) (sounds.zip values) := by
    refine Attempt.forall₂_zip hids hvalues fun d e clip hd hclip => ?_
    obtain ⟨hid, rfl⟩ := hd
    exact ⟨hid, hclip⟩
  have hmap : (sounds.map (·.1)).zip values = (sounds.zip values).map fun e => (e.1.1, e.2) := by
    rw [List.zip_map_left]
    rfl
  rw [hmap, List.forall₂_map_right_iff]
  exact hzip

end Clip

namespace SequenceDef

/-- The elements that describe the sequences of a host. -/
def sources (c : Cursor) : List Cursor := c.inside "sequences" "sequence"

theorem eq_of_ofElement {c : Cursor} {d : SequenceDef} (h : ofElement c = .ok d) :
    c.get? "id" = some d.id ∧ (c.childrenTagged "step").mapM Action.allOf = .ok d.steps := by
  unfold ofElement at h
  split at h
  · cases h
  · rename_i id hid
    obtain ⟨steps, hsteps, rfl⟩ := Attempt.map_eq_ok_iff.1 h
    exact ⟨(Option.filter_eq_some_iff.1 hid).1, hsteps⟩

theorem forall₂_of_allOf {c : Cursor} {ds : List SequenceDef} (h : allOf c = .ok ds) :
    List.Forall₂ (fun e d => ofElement e = .ok d) (c.childrenTagged "sequence") ds := by
  obtain ⟨-, -, h⟩ := Attempt.bind_eq_ok_iff.1 h
  exact Attempt.mapM_eq_ok_iff.1 h

theorem sequences_foldl_register (defs : List SequenceDef) (q : Sequencer) :
    (defs.foldl Sequencer.register q).sequences =
      q.sequences.putAll (defs.map fun d => (d.id, d.steps)) := by
  induction defs generalizing q with
  | nil => rfl
  | cons d defs ih => exact ih (q.register d)

theorem rel_of_declared {c : Cursor} {defs : List SequenceDef}
    (h : declared c "sequences" allOf = .ok defs) :
    (defs.foldl Sequencer.register {}).sequences.keys.Nodup ∧ ∀ id,
      Option.Rel (fun d steps => (d.childrenTagged "step").mapM Action.allOf = .ok steps)
        (Cursor.lastWith (sources c) id)
        ((defs.foldl Sequencer.register {}).sequences.get? id) := by
  rw [sequences_foldl_register]
  refine ⟨Catalog.nodup_keys_putAll Catalog.nodup_keys_nil _, fun id => ?_⟩
  rw [Catalog.get?_putAll, Catalog.get?_nil, Option.or_none]
  refine Cursor.rel_lastWith ?_ id
  rw [List.forall₂_map_right_iff]
  have hread : List.Forall₂ (fun e d => ofElement e = .ok d) (sources c) defs :=
    forall₂_of_declared (fun _ _ => forall₂_of_allOf) h
  exact hread.imp fun _ _ => eq_of_ofElement

end SequenceDef

namespace Figure

/-- A geometry element describes a plane. -/
structure Describes (g : Cursor) (p : Plane) : Prop where
  size : g.vec2? "w" "h" = .ok (some ⟨p.width, p.height⟩)
  across : g.integer "w-segments" 1 = .ok p.across
  down : g.integer "h-segments" 1 = .ok p.down
  faceCount : p.faceCount = (p.across * p.down * 2).toNat

theorem describes_of_plane {g : Cursor} {p : Plane} (h : g.plane = .ok p) : Describes g p := by
  unfold Cursor.plane at h
  dsimp only at h
  split at h
  · cases h
  · obtain ⟨size, hsize, h⟩ := Attempt.bind_eq_ok_iff.1 h
    split at h
    · cases h
    · obtain ⟨across, hacross, h⟩ := Attempt.bind_eq_ok_iff.1 h
      obtain ⟨down, hdown, h⟩ := Attempt.bind_eq_ok_iff.1 h
      cases h
      exact ⟨hsize, hacross, hdown, Plane.faceCount_new _ _ _ _⟩

/-- The quads of an animator are those of a face of the geometry, or the first one. -/
theorem quads_of_animatorsOf {a : Atlas} {g : Cursor} {as : List Animator}
    (h : animatorsOf a g = .ok as) {an : Animator} (han : an ∈ as) :
    an.quads = [0] ∨ ∃ face ∈ g.tagged "face", FaceBinding.quads face = .ok an.quads := by
  have hsel : Selector.ofString "face" = [["face"]] := by decide
  obtain ⟨bound, hbound, h⟩ := Attempt.bind_eq_ok_iff.1 h
  rw [hsel, Cursor.find_singleton g (by decide)] at hbound
  split at h
  · cases h
    obtain ⟨animation, -, rfl⟩ := Option.map_eq_some_iff.1 (Option.mem_toList.1 han)
    left
    exact Animator.quads_setAnimation _ _
  · cases h
    right
    obtain ⟨face, hface, h⟩ :=
      Attempt.exists_mem_of_forall₂ (Attempt.mapM_eq_ok_iff.1 hbound) han
    refine ⟨face, hface, ?_⟩
    unfold FaceBinding.animator at h
    split at h
    · cases h
    · split at h
      · cases h
      · obtain ⟨quads, hquads, h⟩ := Attempt.bind_eq_ok_iff.1 h
        obtain ⟨offset, -, h⟩ := Attempt.bind_eq_ok_iff.1 h
        cases h
        rw [Animator.quads_setAnimation]
        exact hquads

/-- What an entity with one geometry at most and without a text looks like. -/
structure Simple (a : Atlas) (c : Cursor) (f : Figure) : Prop where
  textures : f.textures = a.textures
  planes : Option.Rel Describes (c.tagged "geometry").head? f.planes.head?
  quads : ∀ an ∈ f.animators, an.quads = [0] ∨
    ∃ g ∈ c.tagged "geometry", ∃ face ∈ g.tagged "face", FaceBinding.quads face = .ok an.quads

theorem simple_of_ofElement [Application] {host : Registrations} {a : Atlas} {id : String}
    {c : Cursor} {f : Figure} (htext : c.tagged "text" = [])
    (hgeometry : (c.tagged "geometry").length ≤ 1) (h : ofElement host a id c = .ok f) :
    Simple a c f := by
  have htextSel : Selector.ofString "text" = [["text"]] := by decide
  have hgeometrySel : Selector.ofString "geometry" = [["geometry"]] := by decide
  unfold ofElement at h
  rw [Cursor.first?_eq_head?, htextSel, hgeometrySel, Cursor.find_singleton c (by decide),
    Cursor.find_singleton c (by decide), htext] at h
  cases hg : c.tagged "geometry" with
  | nil =>
      rw [hg] at h
      cases h
      refine ⟨rfl, ?_, ?_⟩
      · rw [hg]
        exact .none
      · intro an han
        cases han
  | cons g gs =>
      rw [hg, List.length_cons] at hgeometry
      obtain rfl := List.length_eq_zero_iff.1 (by omega : gs.length = 0)
      rw [hg] at h
      obtain ⟨parts, hparts, h⟩ := Attempt.bind_eq_ok_iff.1 h
      obtain ⟨p, rest, hp, hrest, rfl⟩ :=
        List.forall₂_cons_left_iff.1 (Attempt.mapM_eq_ok_iff.1 hparts)
      cases hrest
      cases h
      obtain ⟨plane, hplane, hp⟩ := Attempt.bind_eq_ok_iff.1 hp
      obtain ⟨as, has, hp⟩ := Attempt.bind_eq_ok_iff.1 hp
      cases hp
      refine ⟨rfl, ?_, ?_⟩
      · rw [hg]
        exact .some (describes_of_plane hplane)
      · intro an han
        have hmem : an ∈ as := by simpa using han
        rw [hg]
        exact (quads_of_animatorsOf has hmem).imp_right fun ⟨face, hface, hquads⟩ =>
          ⟨g, List.mem_singleton_self g, face, hface, hquads⟩

end Figure

namespace Animation

theorem frameElements_eq_tagged {c : Cursor} (h : c.tag = "animation") :
    frameElements c = c.tagged "frame" := List.filter_cons_of_neg (by simp [h])

/-- The frames of an animation are read from its frame elements, on a sheet that is not refused. -/
theorem framesOf_of_ofElement {c : Cursor} {sheet : Option Vec2} {a : Animation}
    (h : ofElement c sheet = .ok a) : ∃ whole, usableSheet sheet = some whole ∧
      framesOf (c.get? "id") whole [] (frameElements c) = .ok a.frames := by
  unfold ofElement at h
  dsimp only at h
  split at h
  · cases h
  · rename_i whole hwhole
    obtain ⟨frames, hframes, h⟩ := Attempt.bind_eq_ok_iff.1 h
    cases h
    exact ⟨whole, hwhole, hframes⟩

end Animation

namespace Pool

/-- There is a default picture exactly when there is a texture. -/
theorem isSome_defaultPicture_iff {l : Loader} {c : Cursor} {a : Atlas}
    (h : (atlas l c).run.1 = .ok a) :
    ((a.textures.get? Catalog.defaultKey).bind (·.picture)).isSome ↔
      c.find (Selector.ofString "textures > texture") ≠ [] := by
  obtain ⟨textures, htextures, h⟩ := Timed.bind_eq_ok_iff.1 h
  obtain ⟨animations, -, h⟩ := Timed.bind_eq_ok_iff.1 h
  cases h
  obtain ⟨ts, hts, h⟩ := Timed.bind_eq_ok_iff.1 htextures
  cases h
  rw [Timed.Steady.gather_eq_ok_iff (steady_textureList l _), List.forall₂_map_left_iff] at hts
  have hpicture : ∀ t ∈ ts, t.picture.isSome := by
    intro t ht
    obtain ⟨e, -, he⟩ := Attempt.exists_mem_of_forall₂ hts ht
    obtain ⟨picture, -, he⟩ := Timed.bind_eq_ok_iff.1 he
    obtain ⟨size, -, he⟩ := Timed.bind_eq_ok_iff.1 he
    cases he
    rfl
  have hlen : (c.find (Selector.ofString "textures > texture")).length = ts.length := by
    have hzip := hts.length_eq
    rwa [List.length_zipIdx] at hzip
  change (((Atlas.ofTextures ts).get? Catalog.defaultKey).bind (·.picture)).isSome ↔ _
  unfold Atlas.ofTextures
  rw [Catalog.get?_byKey_default, Ne, ← List.length_eq_zero_iff, hlen, List.length_eq_zero_iff]
  constructor
  · rintro h rfl
    cases h
  · intro hne
    cases hlast : (ts.filter (·.id = Catalog.defaultKey)).getLast? with
    | some t =>
        have ht : t ∈ ts := List.mem_of_mem_filter (List.mem_of_getLast? hlast)
        exact hpicture t ht
    | none =>
        obtain ⟨t, ts, rfl⟩ := List.exists_cons_of_ne_nil hne
        exact hpicture t List.mem_cons_self

end Pool

end Stagecraft
