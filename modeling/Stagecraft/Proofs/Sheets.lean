import Stagecraft.Proofs.Declarations

/-!
# Textures and animations by name

Two rules meet where the textures and the animations of a document are put together: the last one
with an id counts, and the first one of all is the default, unless one asks to be that. What a
catalog holds for a key is therefore said of the whole list that it was made of (`Catalog.pick`).
From there follows which texture an animation is drawn on, be it that it can be compiled or not.
-/

namespace Stagecraft

open Markup

namespace Catalog

variable {α : Type} {key : α → String} {items : List α}

/-- The key that an id means. No id and an empty one mean the default. -/
def meant (id : Option String) : String := (id.filter (· ≠ "")).getD defaultKey

/-- The item that a key stands for: the last one with it. The default is the first item of all while
none asks to be it. -/
def pick (key : α → String) (items : List α) (k : String) : Option α :=
  if k = defaultKey then ((items.filter (key · = k)).getLast?).or items.head?
  else (items.filter (key · = k)).getLast?

/-- Where items go along with others that have the same keys, what a key stands for does as well. -/
theorem rel_pick {β : Type} {R : α → β → Prop} {key' : β → String} {others : List β}
    (h : List.Forall₂ R items others) (hkey : ∀ a b, R a b → key a = key' b) (k : String) :
    Option.Rel R (pick key items k) (pick key' others k) := by
  have hfilter : List.Forall₂ R (items.filter (key · = k)) (others.filter (key' · = k)) := by
    induction h with
    | nil => exact .nil
    | cons hab _ ih =>
        rw [List.filter_cons, List.filter_cons, hkey _ _ hab]
        split
        · exact .cons hab ih
        · exact ih
  have hhead {as : List α} {bs : List β} (hs : List.Forall₂ R as bs) :
      Option.Rel R as.head? bs.head? := by
    cases hs with
    | nil => exact .none
    | cons hab _ => exact .some hab
  have hlast : Option.Rel R (items.filter (key · = k)).getLast?
      (others.filter (key' · = k)).getLast? := by
    rw [List.getLast?_eq_head?_reverse, List.getLast?_eq_head?_reverse]
    exact hhead (List.forall₂_reverse_iff.2 hfilter)
  unfold pick
  split
  · -- The first item of all stands in where no item has the key.
    cases hfirst : (items.filter (key · = k)).getLast? with
    | none =>
        rw [hfirst] at hlast
        generalize (others.filter (key' · = k)).getLast? = o at hlast
        cases hlast
        exact hhead h
    | some a =>
        rw [hfirst] at hlast
        generalize (others.filter (key' · = k)).getLast? = o at hlast
        cases hlast with
        | some hab => exact .some hab
  · exact hlast

theorem isSome_getLast?_filter_iff {k : String} :
    (items.filter (key · = k)).getLast?.isSome ↔ k ∈ items.map key := by
  simp

theorem isSome_pick_default : (pick key items defaultKey).isSome ↔ items ≠ [] := by
  rw [pick, if_pos rfl, Option.isSome_or, Bool.or_eq_true, isSome_getLast?_filter_iff]
  cases items with
  | nil => simp
  | cons a items => simp

theorem pick_default_eq_none_iff (key : α → String) (items : List α) :
    pick key items defaultKey = none ↔ items = [] := by
  rw [← Option.not_isSome_iff_eq_none, isSome_pick_default, not_not]

/-- A catalog of items by their keys. -/
structure Indexes (key : α → String) (items : List α) (m : Catalog α) : Prop where
  nodup : m.keys.Nodup
  nil_iff : m = [] ↔ items = []
  keys : items ≠ [] → ∀ k, k ∈ m.keys ↔ k ∈ items.map key ∨ k = defaultKey
  values : ∀ k, m.get? k = pick key items k

theorem indexes_byKey (key : α → String) (items : List α) :
    Indexes key items (byKey key items) := by
  have hvalues (k : String) : (byKey key items).get? k = pick key items k := by
    unfold pick
    split
    · rename_i hk
      rw [hk, get?_byKey_default]
    · rename_i hk
      exact get?_byKey_of_ne key items hk
  refine ⟨nodup_keys_byKey key items, ?_, fun hne k => ?_, hvalues⟩
  · constructor
    · intro hnil
      rw [← pick_default_eq_none_iff key, ← hvalues, hnil]
      rfl
    · rintro rfl
      rfl
  · rw [← has_iff_mem_keys, has, hvalues]
    by_cases hk : k = defaultKey
    · subst hk
      exact ⟨fun _ => .inr rfl, fun _ => isSome_pick_default.2 hne⟩
    · rw [pick, if_neg hk, isSome_getLast?_filter_iff]
      exact ⟨.inl, fun h => h.resolve_right hk⟩

end Catalog

namespace Atlas

/-- What is wrong where a name means no texture. -/
def missing (name : Option String) : Defect :=
  match name.filter (· ≠ "") with
  | some id => .textureUndefined id
  | none => .defaultTextureUndefined

variable {a : Atlas} {ts : List Texture}

theorem texture_of_indexes (h : Catalog.Indexes (·.id) ts a.textures) (name : Option String)
    (place : Option Element) :
    a.texture name place =
      match Catalog.pick (·.id) ts (Catalog.meant name) with
      | some t => .ok t
      | none => .error (.definition (missing name) place) := by
  rw [← h.values]
  unfold texture Catalog.meant missing
  cases name.filter (· ≠ "") with
  | none => rfl
  | some id => rfl

/-- Where nothing is named, a texture is missing only if there is none at all. -/
theorem texture_unnamed_eq_error_iff (h : Catalog.Indexes (·.id) ts a.textures)
    {name : Option String} (hname : name = none ∨ name = some "") (place : Option Element) :
    (∃ f, a.texture name place = .error f) ↔ ts = [] := by
  have hmeant : Catalog.meant name = Catalog.defaultKey := by
    rcases hname with rfl | rfl
    · rfl
    · rfl
  rw [texture_of_indexes h, hmeant, ← Catalog.pick_default_eq_none_iff (·.id)]
  cases Catalog.pick (·.id) ts Catalog.defaultKey with
  | none => simp
  | some t => simp

end Atlas

namespace Pool

/-- The animation that an element describes on one of some textures, that which the element around
it names. -/
def animationOn (ts : List Texture) (serial : Nat) (c : Cursor) : Except Fault Animation :=
  let name := c.parent?.bind (·.get? "texture")
  match Catalog.pick (·.id) ts (Catalog.meant name) with
  | some sheet => (Animation.ofElement c sheet.size).map fun animation => { animation with serial }
  | none => .error (.defect (Atlas.missing name) c.element)

theorem animation_of_indexes {a : Atlas} {ts : List Texture}
    (h : Catalog.Indexes (·.id) ts a.textures) (serial : Nat) (c : Cursor) :
    animation a serial c = animationOn ts serial c := by
  unfold animation animationOn
  rw [Atlas.texture_of_indexes h]
  dsimp only
  cases Catalog.pick (·.id) ts (Catalog.meant (c.parent?.bind (·.get? "texture"))) with
  | none => rfl
  | some sheet => rfl

/-- The texture elements and the animation elements of a document. -/
def textureElements (c : Cursor) : List Cursor := c.find (Selector.ofString "textures > texture")

def animationElements (c : Cursor) : List Cursor :=
  c.find (Selector.ofString "animations > animation")

/-- What goes along with numbered elements goes along with the elements. -/
theorem forall₂_of_zipIdx {α : Type} {R : Cursor → α → Prop} {es : List Cursor} {xs : List α}
    (h : List.Forall₂ (fun e x => R e.1 x) es.zipIdx xs) : List.Forall₂ R es xs := by
  rw [← List.zipIdx_map_fst 0 es, List.forall₂_map_left_iff]
  exact h

/-- A texture is what comes of the element with its number. -/
def Renders (l : Loader) (e : Cursor × Nat) (t : Texture) : Prop :=
  (texture l e.2 e.1).run.1 = .ok t

/-- The id that an element means. -/
def meantBy (e : Cursor × Nat) : String := Catalog.meant (e.1.get? "id")

theorem id_of_renders {l : Loader} {e : Cursor × Nat} {t : Texture} (h : Renders l e t) :
    meantBy e = t.id := by
  obtain ⟨picture, -, h⟩ := Timed.bind_eq_ok_iff.1 h
  obtain ⟨size, -, h⟩ := Timed.bind_eq_ok_iff.1 h
  cases h
  rfl

/-- The textures of a document come of its elements, one of each. -/
theorem exists_textures {l : Loader} {c : Cursor} {m : Catalog Texture}
    (h : (textures l c).run.1 = .ok m) :
    ∃ ts, List.Forall₂ (Renders l) (textureElements c).zipIdx ts ∧ m = Atlas.ofTextures ts := by
  obtain ⟨ts, hts, h⟩ := Timed.bind_eq_ok_iff.1 h
  cases h
  refine ⟨ts, ?_, rfl⟩
  rw [Timed.Steady.gather_eq_ok_iff (steady_textureList l _), List.forall₂_map_left_iff] at hts
  exact hts

theorem key_of_animationOn {ts : List Texture} {serial : Nat} {c : Cursor} {a : Animation}
    (h : animationOn ts serial c = .ok a) :
    Atlas.animationKey a = Catalog.meant (c.get? "id") := by
  unfold animationOn at h
  dsimp only at h
  split at h
  · obtain ⟨b, hb, rfl⟩ := Attempt.map_eq_ok_iff.1 h
    unfold Animation.ofElement at hb
    dsimp only at hb
    split at hb
    · cases hb
    · obtain ⟨frames, -, hb⟩ := Attempt.bind_eq_ok_iff.1 hb
      cases hb
      rfl
  · cases h

/-- With its textures read, a document has an atlas if all of its animations can be compiled. -/
theorem atlas_of_textures {l : Loader} {c : Cursor} {m : Catalog Texture}
    (h : (textures l c).run.1 = .ok m) {ts : List Texture} (hts : Catalog.Indexes (·.id) ts m) :
    (atlas l c).run.1 =
      ((animationElements c).zipIdx.mapM fun e => animationOn ts e.2 e.1).map fun as =>
        ⟨m, Atlas.ofAnimations as⟩ := by
  have hread : (animationElements c).zipIdx.mapM (fun e => animation ⟨m, []⟩ e.2 e.1) =
      (animationElements c).zipIdx.mapM fun e => animationOn ts e.2 e.1 := by
    congr 1
    funext e
    exact animation_of_indexes hts e.2 e.1
  have hlast {α β : Type} (x : Except Fault α) (g : α → β) (start : Start) :
      ((liftM x >>= fun a => pure (g a) : Timed β) start).result = x.map g := by
    cases x <;> rfl
  have hrest : (atlas l c).run.1 = _ := Timed.bind_result (textures l c) _ {}
  have hm : (textures l c {}).result = .ok m := h
  rw [← hread, hrest, hm]
  exact hlast _ _ _

/-- Textures and animations are kept by their ids, the last one of each id, and the default is the
last that asks to be it or else the first one of all. So where no texture is named, one is missing
only if the document has none, and an animation is drawn on what comes of the last texture element
with the id that its parent names, or on the default. -/
theorem sheets_of_atlas :
    (∀ ts : List Texture, Catalog.Indexes (·.id) ts (Atlas.ofTextures ts)) ∧
    (∀ as, Catalog.Indexes Atlas.animationKey as (Atlas.ofAnimations as)) ∧
    ∀ (l : Loader) (c : Cursor) (m : Catalog Texture), (textures l c).run.1 = .ok m →
      ∃ ts, List.Forall₂ (Renders l) (textureElements c).zipIdx ts ∧
        m = Atlas.ofTextures ts ∧
        (∀ k, Option.Rel (Renders l) (Catalog.pick meantBy (textureElements c).zipIdx k)
          (Catalog.pick (·.id) ts k)) ∧
        (∀ a : Atlas, a.textures = m → ∀ name place, name = none ∨ name = some "" →
          ((∃ f, a.texture name place = .error f) ↔ textureElements c = [])) ∧
        (atlas l c).run.1 =
          (((animationElements c).zipIdx.mapM fun e => animationOn ts e.2 e.1).map fun as =>
            ⟨m, Atlas.ofAnimations as⟩) ∧
        ∀ as, ((animationElements c).zipIdx.mapM fun e => animationOn ts e.2 e.1) = .ok as →
          List.Forall₂ (fun e a => Atlas.animationKey a = Catalog.meant (e.get? "id"))
            (animationElements c) as := by
  have htextures (ts : List Texture) : Catalog.Indexes (·.id) ts (Atlas.ofTextures ts) :=
    Catalog.indexes_byKey _ ts
  refine ⟨htextures, fun as => Catalog.indexes_byKey _ as, fun l c m h => ?_⟩
  obtain ⟨ts, hts, rfl⟩ := exists_textures h
  refine ⟨ts, hts, rfl, Catalog.rel_pick hts fun _ _ => id_of_renders,
    fun a ha name place hname => ?_, atlas_of_textures h (htextures ts), fun as has => ?_⟩
  · rw [Atlas.texture_unnamed_eq_error_iff (ha ▸ htextures ts) hname, ← List.length_eq_zero_iff,
      ← hts.length_eq, List.length_zipIdx, List.length_eq_zero_iff]
  · exact forall₂_of_zipIdx ((Attempt.mapM_eq_ok_iff.1 has).imp fun _ _ => key_of_animationOn)

/-- A loader with two pictures of different sizes. -/
def sheetLoader : Loader :=
  { storage := { files := [(["s.png"], .picture 16 16), (["t.png"], .picture 32 32)] } }

/-- A document with three textures, one of them without an id and two with the same one. -/
def sheetList : Cursor :=
  .ofDocument ⟨⟨"entities", [], 1, [.element "textures" [] 1
    [.element "texture" [("id", "a"), ("url", "s.png")] 1 [],
      .element "texture" [("url", "s.png")] 1 [],
      .element "texture" [("id", "a"), ("url", "t.png")] 1 []],
    .element "animations" [("texture", "a"), ("w", "16"), ("h", "16")] 1
      [.element "animation" [("id", "walk")] 1 [.element "frame" [] 1 []]]]⟩, none⟩

/-- The animation is drawn on the larger picture, half of which its frame is wide. -/
theorem sheets_of_atlas_sheetList :
    ∃ m ts walk, (textures sheetLoader sheetList).run.1 = .ok m ∧
      ts.map (fun t => (t.id, t.size.map fun size => (size.x, size.y))) =
        [("a", some (16, 16)), ("__default", some (16, 16)), ("a", some (32, 32))] ∧
      Catalog.Indexes (·.id) ts m ∧
      (atlas sheetLoader sheetList).run.1 = .ok ⟨m, Atlas.ofAnimations [walk]⟩ ∧
      walk.frames.map (fun f => f.quad.u1) = [0.5] := by
  have hsizes : ((textureElements sheetList).zipIdx.mapM fun e =>
      (texture sheetLoader e.2 e.1).run.1).toOption.map
        (·.map fun t => (t.id, t.size.map fun size => (size.x, size.y))) =
      some [("a", some (16, 16)), ("__default", some (16, 16)), ("a", some (32, 32))] := by
    decide +kernel
  have hframes : ((atlas sheetLoader sheetList).run.1.toOption.bind
      (·.animations.get? "walk")).map (fun a => a.frames.map (fun f => f.quad.u1)) =
      some [0.5] := by
    decide +kernel
  obtain ⟨m, hm⟩ := Attempt.exists_eq_ok
    (show (textures sheetLoader sheetList).run.1.toOption.isSome by decide +kernel)
  obtain ⟨hindexes, -, hread⟩ := sheets_of_atlas
  obtain ⟨ts, hts, rfl, -, -, hatlas, hkeys⟩ := hread sheetLoader sheetList m hm
  rw [Attempt.mapM_eq_ok_iff.2 hts] at hsizes
  rw [hatlas] at hframes
  cases has : (animationElements sheetList).zipIdx.mapM fun e => animationOn ts e.2 e.1 with
  | error f =>
      rw [has] at hframes
      cases hframes
  | ok as =>
      rw [has] at hframes hatlas
      obtain ⟨walk, rest, hkey, hrest, rfl⟩ := List.forall₂_cons_left_iff.1 (hkeys as has)
      cases hrest
      have hwalk : Catalog.get? (Atlas.ofAnimations [walk]) "walk" = some walk := by
        rw [(sheets_of_atlas.2.1 [walk]).values]
        have hname : Atlas.animationKey walk = "walk" := hkey
        simp [Catalog.pick, hname, Catalog.defaultKey]
      refine ⟨_, ts, walk, hm, Option.some.inj hsizes, hindexes ts, hatlas, ?_⟩
      simpa [Except.map, Except.toOption, hwalk] using hframes

end Pool

end Stagecraft
