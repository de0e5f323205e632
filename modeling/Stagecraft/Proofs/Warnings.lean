import Stagecraft.Entity.Session
import Stagecraft.Proofs.Asking
import Stagecraft.Proofs.Selecting
import Stagecraft.Proofs.Sheets
import Stagecraft.Proofs.Turns

/-!
# Missing default textures

The compilation of a pool says nothing until all of its items have been read, so a pool that cannot
be compiled is not warned about (`Timed.Tells`). A pool that can be compiled is warned about for
each item that is left without a default texture: if the document has a texture anywhere, there is
none; otherwise these are the items that show no text. However often the pool is asked for and
entities are constructed from it, the warnings are given once (`Pool.warnings_once`).
-/

namespace Stagecraft

open Markup

namespace Timed

variable {α β : Type} {s : Start}

/-- Nothing is told on the way. -/
def Silent (w : Timed α) : Prop := ∀ s, (w s).notices = []

namespace Silent

theorem lift (r : Except Fault α) : Silent (liftM r : Timed α) := fun _ => rfl

theorem pure (a : α) : Silent (pure a : Timed α) := fun _ => rfl

theorem load (delay : Start → Nat) (r : Except Fault α) : Silent (load delay r) := fun _ => rfl

theorem task {a : Timed α} (ha : Silent a) (before after : Nat) : Silent (task before after a) :=
  fun _ => ha _

theorem tracked {a : Timed α} (ha : Silent a) : Silent (tracked a) := fun _ => ha _

theorem bind {a : Timed α} {f : α → Timed β} (ha : Silent a) (hf : ∀ x, Silent (f x)) :
    Silent (a >>= f) := by
  intro s
  change (andThen a f s).notices = []
  unfold andThen
  dsimp only
  split
  · exact ha s
  · change (a s).notices ++ _ = []
    rw [ha s, hf _ _]
    rfl

theorem gather {works : List (Timed α)} (h : ∀ w ∈ works, Silent w) : Silent (gather works) := by
  intro s
  have hnotices : ((ends works s).map (·.notices)).flatten = [] := by
    rw [List.flatten_eq_nil_iff]
    intro ns hns
    obtain ⟨e, he, rfl⟩ := List.mem_map.1 hns
    obtain ⟨w, hw, start, rfl⟩ := mem_ends he
    exact h w hw start
  unfold Timed.gather
  split
  · rfl
  · dsimp only
    split
    · exact hnotices
    · exact hnotices

end Silent

theorem notices_bind_of_error {a : Timed α} {e : Fault} (f : α → Timed β)
    (h : (a s).result = .error e) : ((a >>= f) s).notices = (a s).notices := by
  change (andThen a f s).notices = _
  unfold andThen
  simp only [h]

theorem notices_bind_of_ok {a : Timed α} {x : α} (f : α → Timed β) (h : (a s).result = .ok x) :
    ((a >>= f) s).notices = (a s).notices ++ (f x (s.resume (a s).moment)).notices := by
  change (andThen a f s).notices = _
  unfold andThen
  simp only [h]

/-- Work that says nothing if it fails, and otherwise says at its end what there is to say about its
value. -/
structure Tells (say : α → List Notice) (w : Timed α) : Prop where
  error (s : Start) (e : Fault) (h : (w s).result = .error e) : (w s).notices = []
  ok (s : Start) (x : α) (h : (w s).result = .ok x) :
    (w s).notices = (say x).map ((w s).moment, ·)

theorem tells_of_eq {say : α → List Notice} {w : Timed α} {x : α}
    (h : ∀ s, w s = ⟨.ok x, s.moment, (say x).map (s.moment, ·), []⟩) : Tells say w where
  error s e he := by
    rw [h s] at he
    cases he
  ok s y hy := by
    rw [h s] at hy ⊢
    cases hy
    rfl

/-- What is said at the end of everything comes after work that says nothing. -/
theorem Tells.bind {a : Timed α} {f : α → Timed β} {say : β → List Notice} (ha : Silent a)
    (hf : ∀ s x, (a s).result = .ok x → Tells say (f x)) : Tells say (a >>= f) where
  error s e h := by
    rcases bind_eq_error_iff.1 h with hfirst | ⟨x, hx, hrest⟩
    · rw [notices_bind_of_error f hfirst, ha s]
    · rw [notices_bind_of_ok f hx, ha s, (hf s x hx).error _ e hrest]
      rfl
  ok s y h := by
    obtain ⟨x, hx, hrest⟩ := bind_eq_ok_iff.1 h
    rw [notices_bind_of_ok f hx, ha s, (hf s x hx).ok _ y hrest, (bind_of_ok f hx).2]
    rfl

/-- Notices given one after the other take no time. -/
theorem notices_forIn (p : α → Bool) (say : α → Notice) (xs : List α) (s : Start) :
    ((forIn xs PUnit.unit fun x _ => do
        unless p x do notice (say x)
        pure (.yield PUnit.unit) : Timed PUnit) s) =
      ⟨.ok PUnit.unit, s.moment, ((xs.filter fun x => !p x).map say).map (s.moment, ·), []⟩ := by
  induction xs with
  | nil => rfl
  | cons x xs ih =>
      rw [List.forIn_cons]
      cases hp : p x with
      | true =>
          rw [List.filter_cons_of_neg (by simp [hp])]
          exact ih
      | false =>
          rw [List.filter_cons_of_pos (by simp [hp]), List.map_cons, List.map_cons]
          exact congrArg
            (fun e : Ended PUnit => { e with notices := (s.moment, say x) :: e.notices }) ih

theorem Tells.run_task_of_error {say : α → List Notice} {w : Timed α} (h : Tells say w)
    {before after : Nat} {f : Fault} (hf : (task before after w).run.1 = .error f) :
    (task before after w).run.2 = [] := by
  change ((w (({} : Start).later before)).notices.filter _).map (·.2) = []
  rw [h.error _ f hf]
  rfl

/-- What a task of its own says is heard before the task is noticed to have ended. -/
theorem Tells.run_task_of_ok {say : α → List Notice} {w : Timed α} (h : Tells say w)
    {before after : Nat} {x : α} (hx : (task before after w).run.1 = .ok x) :
    (task before after w).run.2 = say x := by
  obtain ⟨start, hstart⟩ : ∃ start, start = ({} : Start).later before := ⟨_, rfl⟩
  have hend : (task before after w {}).moment = (w start).moment.later after := by
    rw [hstart]
    rfl
  have hheard : (task before after w {}).moment.isBefore (w start).moment = false := by
    rw [hend, ← Bool.not_eq_true, Moment.isBefore_iff]
    simp only [Moment.later]
    omega
  change ((w (({} : Start).later before)).notices.filter _).map (·.2) = say x
  rw [← hstart, h.ok start x (hstart ▸ hx), List.filter_map]
  simp only [Function.comp_def, hheard, Bool.not_false, List.filter_true, List.map_map,
    List.map_id_fun', id_eq]

end Timed

namespace Loader

variable (l : Loader) (c : Cursor)

theorem silent_fetch (url : String) : (l.fetch url).Silent :=
  (Timed.Silent.lift _).bind fun _ => .load _ _

theorem silent_loadPicture (url : String) : (l.loadPicture url).Silent :=
  ((l.silent_fetch url).bind fun _ => .load _ _).tracked

theorem silent_loadClip (url : String) : (l.loadClip url).Silent :=
  ((l.silent_fetch url).bind fun _ => .pure _).tracked

theorem silent_clipOf : (l.clipOf c).Silent := by
  refine (Timed.Silent.lift _).bind fun url => ?_
  cases url with
  | none => exact .lift _
  | some url => exact l.silent_loadClip url

theorem silent_pictureOf : (l.pictureOf c).Silent := by
  refine (Timed.Silent.lift _).bind fun url => ?_
  cases url with
  | none => exact .lift _
  | some url => exact l.silent_loadPicture url

end Loader

namespace Pool

theorem silent_textures (l : Loader) (c : Cursor) : (textures l c).Silent := by
  refine Timed.Silent.bind (.gather fun w hw => ?_) fun _ => .pure _
  obtain ⟨e, -, rfl⟩ := List.mem_map.1 hw
  exact (l.silent_pictureOf e.1).bind fun _ => (Timed.Silent.lift _).bind fun _ => .pure _

theorem silent_atlas (l : Loader) (c : Cursor) : (atlas l c).Silent :=
  (silent_textures l c).bind fun _ => (Timed.Silent.lift _).bind fun _ => .pure _

variable [Application]

theorem silent_blueprint (l : Loader) (a : Atlas) (c : Cursor) :
    (Blueprint.ofElement l a c).Silent := by
  refine (Timed.Silent.lift _).bind fun _ => Timed.Silent.bind ?_ fun _ => .pure _
  refine (Timed.Silent.lift _).bind fun sounds => Timed.Silent.bind (.gather ?_) fun _ => .pure _
  intro w hw
  obtain ⟨sound, -, rfl⟩ := List.mem_map.1 hw
  exact l.silent_clipOf sound.2

/-- What there is to say about a compiled pool: each blueprint without a default texture. -/
def warnings (pool : Pool) : List Notice :=
  ((pool.map (·.2.blueprint)).filter fun b => !b.hasDefaultTexture).map fun b =>
    .noDefaultTexture b.id

/-- The compilation of a pool says nothing before its end. -/
theorem tells_compile (l : Loader) (c : Cursor) : Timed.Tells warnings (compile l c) := by
  refine Timed.Tells.bind (.lift _) fun _ items _ => ?_
  refine Timed.Tells.bind (silent_atlas l c) fun _ a _ => ?_
  refine Timed.Tells.bind (.gather fun w hw => ?_) fun _ bs hbs => ?_
  · obtain ⟨e, -, rfl⟩ := List.mem_map.1 hw
    exact silent_blueprint l a e.2
  have hblueprints : (((items.zip bs).map fun e => (e.1.1, (⟨e.1.2, e.2⟩ : Entry))).map
      (·.2.blueprint)) = bs := by
    have hlength := (List.forall₂_map_left_iff.1 (Timed.forall₂_of_gather hbs)).length_eq
    rw [List.map_map]
    exact List.map_snd_zip hlength.ge
  refine Timed.tells_of_eq (x := (items.zip bs).map fun e => (e.1.1, ⟨e.1.2, e.2⟩)) fun s => ?_
  have hloop := Timed.notices_forIn Blueprint.hasDefaultTexture (fun b => .noDefaultTexture b.id)
    bs s
  change Timed.andThen _ _ s = _
  unfold Timed.andThen
  rw [hloop, warnings, hblueprints]
  exact congrArg (Ended.mk _ s.moment · []) (List.append_nil _)

end Pool

/-! ### Default textures -/

namespace Markup.Cursor

/-- There is an element with the tag below. -/
def Holds (c : Cursor) (tag : String) : Prop :=
  ∃ steps x, steps ≠ [] ∧ c.follow? steps = some x ∧ x.tag = tag

/-- There is a texture in a list of textures below. -/
def HoldsTexture (c : Cursor) : Prop :=
  ∃ steps x p, steps ≠ [] ∧ c.follow? steps = some x ∧ x.tag = "texture" ∧
    x.parent? = some p ∧ p.tag = "textures"

theorem holds_iff {c : Cursor} {tag : String} : c.Holds tag ↔ c.tagged tag ≠ [] := by
  constructor
  · rintro ⟨steps, x, hne, hx, htag⟩
    have hbelow : x ∈ c.descendants := mem_descendants_iff_follow?.2 ⟨steps, hne, hx⟩
    exact List.ne_nil_of_mem (List.mem_filter.2 ⟨hbelow, by simp [htag]⟩)
  · intro h
    obtain ⟨x, hx⟩ := List.exists_mem_of_ne_nil _ h
    obtain ⟨hbelow, htag⟩ := List.mem_filter.1 hx
    obtain ⟨steps, hne, hx⟩ := mem_descendants_iff_follow?.1 hbelow
    exact ⟨steps, x, hne, hx, by simpa using htag⟩

theorem carries_pair_iff {x : Cursor} {outer inner : String} (houter : outer ≠ "*")
    (hinner : inner ≠ "*") :
    x.Carries [outer, inner] ↔ x.tag = inner ∧ ∃ p, x.parent? = some p ∧ p.tag = outer := by
  constructor
  · intro h
    obtain ⟨y, hy, htag⟩ := h 0 inner rfl
    obtain ⟨p, hp, hparent⟩ := h 1 outer rfl
    cases hy
    rw [ancestor?_succ] at hp
    obtain ⟨q, hq, hp⟩ := Option.bind_eq_some_iff.1 hp
    cases hp
    exact ⟨htag.resolve_left hinner, _, hq, hparent.resolve_left houter⟩
  · rintro ⟨htag, p, hp, hparent⟩ k tag hk
    match k with
    | 0 =>
        cases hk
        exact ⟨x, rfl, .inr htag⟩
    | 1 =>
        cases hk
        exact ⟨p, by rw [ancestor?_succ, hp]; rfl, .inr hparent⟩
    | k + 2 => cases hk

theorem holdsTexture_iff {c : Cursor} : c.HoldsTexture ↔ Pool.textureElements c ≠ [] := by
  have hsel : Selector.ofString "textures > texture" = [["textures", "texture"]] := by decide
  have hmatch (x : Cursor) : x.matchesSelector (.ofString "textures > texture") = true ↔
      x.tag = "texture" ∧ ∃ p, x.parent? = some p ∧ p.tag = "textures" := by
    rw [hsel, ← carries_pair_iff (by decide) (by decide), ← carries_iff]
    exact Bool.eq_iff_iff.1 (Bool.or_false _)
  have hmem (x : Cursor) : x ∈ Pool.textureElements c ↔
      (∃ steps, steps ≠ [] ∧ c.follow? steps = some x) ∧
        x.tag = "texture" ∧ ∃ p, x.parent? = some p ∧ p.tag = "textures" := by
    rw [Pool.textureElements, find, List.mem_filter, mem_descendants_iff_follow?, hmatch]
  constructor
  · rintro ⟨steps, x, p, hne, hx, htag, hp, hparent⟩
    exact List.ne_nil_of_mem ((hmem x).2 ⟨⟨steps, hne, hx⟩, htag, p, hp, hparent⟩)
  · intro h
    obtain ⟨x, hx⟩ := List.exists_mem_of_ne_nil _ h
    obtain ⟨⟨steps, hne, hx⟩, htag, p, hp, hparent⟩ := (hmem x).1 hx
    exact ⟨steps, x, p, hne, hx, htag, hp, hparent⟩

end Markup.Cursor

/-- A text brings its own default texture along, unless there is a geometry. All else that an entity
can look like has the textures of the document. -/
theorem Figure.has_default_iff [Application] {host : Registrations} {a : Atlas} {id : String}
    {c : Cursor} {f : Figure} (h : Figure.ofElement host a id c = .ok f) :
    f.textures.has Catalog.defaultKey = true ↔
      a.textures.has Catalog.defaultKey = true ∨ c.Holds "text" ∧ ¬ c.Holds "geometry" := by
  have htext : Selector.ofString "text" = [["text"]] := by decide
  have hgeometry : Selector.ofString "geometry" = [["geometry"]] := by decide
  unfold Figure.ofElement at h
  rw [Cursor.first?_eq_head?, htext, hgeometry, Cursor.find_singleton c (by decide),
    Cursor.find_singleton c (by decide)] at h
  rw [Cursor.holds_iff, Cursor.holds_iff, not_not]
  split at h
  · rename_i hnone
    cases h
    rw [List.head?_eq_none_iff.1 hnone]
    simp
  · rename_i text hgeometries hsome
    refine iff_of_true ?_ (.inr ⟨?_, hgeometries⟩)
    · unfold Figure.ofText at h
      split at h
      · cases h
      · obtain ⟨font, -, h⟩ := Attempt.bind_eq_ok_iff.1 h
        obtain ⟨drawn, -, h⟩ := Attempt.bind_eq_ok_iff.1 h
        cases h
        rfl
    · intro hnil
      rw [hnil] at hsome
      cases hsome
  · rename_i hnone hsome
    have hgeometries : c.tagged "geometry" ≠ [] := by
      intro hnil
      cases hhead : (c.tagged "text").head? with
      | none => exact hnone hnil hhead
      | some text => exact hsome text hnil hhead
    obtain ⟨parts, -, h⟩ := Attempt.bind_eq_ok_iff.1 h
    cases h
    exact ⟨.inl, fun h => h.resolve_right fun hno => hgeometries hno.2⟩

namespace Pool

/-- The atlas of a document has a default texture if the document has a texture. -/
theorem has_default_of_atlas {l : Loader} {c : Cursor} {a : Atlas}
    (h : (atlas l c).run.1 = .ok a) :
    a.textures.has Catalog.defaultKey = true ↔ c.HoldsTexture := by
  obtain ⟨m, hm, h⟩ := Timed.bind_eq_ok_iff.1 h
  obtain ⟨animations, -, h⟩ := Timed.bind_eq_ok_iff.1 h
  cases h
  obtain ⟨ts, hts, rfl⟩ := exists_textures hm
  have hindexes : Catalog.Indexes (·.id) ts (Atlas.ofTextures ts) := Catalog.indexes_byKey _ ts
  rw [Cursor.holdsTexture_iff, Catalog.has, hindexes.values, Catalog.isSome_pick_default]
  refine not_congr ?_
  rw [← List.length_eq_zero_iff, ← List.length_eq_zero_iff, ← hts.length_eq, List.length_zipIdx]

/-- An item of a pool that has no default texture of its own: it shows no text, or it has a geometry
and shows no text for that. -/
def Bare (c x : Cursor) : Prop :=
  (∃ i, c.child? i = some x) ∧ x.tag = itemTag c ∧ (¬ x.Holds "text" ∨ x.Holds "geometry")

/-- A notice names an element. -/
def Names (x : Cursor) (n : Notice) : Prop :=
  ∃ id, x.get? "id" = some id ∧ n = .noDefaultTexture id

/-- What there is to be told about a document, by what has come of it. -/
inductive Told (c : Cursor) : Except Fault Pool → List Notice → Prop
  | failed (f : Fault) : Told c (.error f) []
  | textured (pool : Pool) (h : c.HoldsTexture) : Told c (.ok pool) []
  | untextured (pool : Pool) {bare : List Cursor} {notices : List Notice} (h : ¬ c.HoldsTexture)
      (hbare : Cursor.Lists bare (Bare c)) (hnotices : List.Forall₂ Names bare notices) :
      Told c (.ok pool) notices

/-- The items without a default texture, in document order. -/
def bareItems (c : Cursor) : List Cursor :=
  (c.childrenTagged (itemTag c)).filter fun x =>
    (x.tagged "text").isEmpty || !(x.tagged "geometry").isEmpty

theorem isBare_iff {x : Cursor} :
    ((x.tagged "text").isEmpty || !(x.tagged "geometry").isEmpty) = true ↔
      ¬ x.Holds "text" ∨ x.Holds "geometry" := by
  rw [Cursor.holds_iff, Cursor.holds_iff, Bool.or_eq_true, Bool.not_eq_true',
    List.isEmpty_iff, List.isEmpty_eq_false_iff, not_not]

theorem lists_bareItems (c : Cursor) : Cursor.Lists (bareItems c) (Bare c) where
  mem x := by
    rw [bareItems, Cursor.childrenTagged, List.filter_filter, List.mem_filter, Bool.and_eq_true,
      decide_eq_true_eq, isBare_iff, List.mem_iff_getElem?]
    exact and_congr_right fun _ => and_comm
  order := (((Cursor.pairwise_subtree c.url _ c.address 0 c.element.children).sublist
    (Cursor.siblings_sublist_subtree c.url _ c.address 0 c.element.children)).filter _).filter _

section

variable [Application]

theorem hasDefaultTexture_iff {l : Loader} {c item : Cursor} {a : Atlas} {e : String × Entry}
    (ha : (atlas l c).run.1 = .ok a) (h : Compiles l a item e) :
    e.2.blueprint.hasDefaultTexture = true ↔
      c.HoldsTexture ∨ item.Holds "text" ∧ ¬ item.Holds "geometry" := by
  rw [← has_default_of_atlas ha]
  exact Figure.has_default_iff h.reads.figure

theorem told_of_compiles {l : Loader} {c : Cursor} {a : Atlas} {pool : Pool}
    (ha : (atlas l c).run.1 = .ok a)
    (h : List.Forall₂ (Compiles l a) (c.childrenTagged (itemTag c)) pool) :
    Told c (.ok pool) (warnings pool) := by
  by_cases htexture : c.HoldsTexture
  · have hnone : warnings pool = [] := by
      unfold warnings
      rw [List.map_eq_nil_iff, List.filter_eq_nil_iff]
      intro b hb
      obtain ⟨e, he, rfl⟩ := List.mem_map.1 hb
      obtain ⟨item, -, hitem⟩ := Attempt.exists_mem_of_forall₂ h he
      simp [(hasDefaultTexture_iff ha hitem).2 (.inl htexture)]
    rw [hnone]
    exact .textured pool htexture
  · have hbare : List.Forall₂ (Compiles l a) (bareItems c)
        (pool.filter fun e => !e.2.blueprint.hasDefaultTexture) := by
      refine List.rel_filter (fun item e hitem => ?_) h
      refine isBare_iff.trans ?_
      change _ ↔ (!e.2.blueprint.hasDefaultTexture) = true
      rw [Bool.not_eq_true', ← Bool.not_eq_true, hasDefaultTexture_iff ha hitem]
      tauto
    refine .untextured pool htexture (lists_bareItems c) ?_
    unfold warnings
    rw [List.filter_map, List.map_map, List.forall₂_map_right_iff]
    refine hbare.imp fun item e hitem => ⟨e.1, hitem.id, ?_⟩
    have hid : e.2.blueprint.id = e.1 := hitem.reads.id.trans (by rw [hitem.id]; rfl)
    rw [Function.comp_apply, hid]

/-- What a document is told to lack is what there is to be told. -/
theorem told_ofElement (l : Loader) (c : Cursor) :
    Told c (ofElement l c).run.1 (ofElement l c).run.2 := by
  cases hpool : (ofElement l c).run.1 with
  | error f =>
      have hsaid : (ofElement l c).run.2 = [] := (tells_compile l c).run_task_of_error hpool
      rw [hsaid]
      exact .failed f
  | ok pool =>
      have hsaid : (ofElement l c).run.2 = warnings pool := (tells_compile l c).run_task_of_ok hpool
      obtain ⟨a, ha, -, hentries⟩ := compile_eq_ok hpool
      rw [hsaid]
      exact told_of_compiles ha hentries

end

open Bare in
example : (ofElement {} (.ofDocument ⟨⟨"entities", [], 1,
    [.element "entity" [("id", "a")] 1 [], .element "entity" [("id", "b")] 2 []]⟩, none⟩)).run.2 =
      [.noDefaultTexture "a", .noDefaultTexture "b"] := by decide +kernel

/-! ### Asking again -/

theorem flatten_of_prefix {turns : Nat} {ns : List Notice} {acts : List (List Notice)}
    (h : acts <+: List.replicate turns [] ++ [ns]) : acts.flatten = [] ∨ acts.flatten = ns := by
  rcases List.prefix_concat_iff.1 h with rfl | h
  · exact .inr (by simp)
  · left
    rw [List.flatten_eq_nil_iff]
    exact fun ns hns => List.eq_of_mem_replicate (h.subset hns)

variable [Application]

namespace Session

variable (start : Nat → Course (List Notice) Pool)

/-- What is constructed makes no difference to the cell, and it tells nothing. -/
theorem construct_told_cell (s : Session) (id : String) :
    (s.construct id).cell = s.cell ∧ (s.construct id).told = s.told := by
  unfold construct
  cases s.blueprint? id with
  | none => exact ⟨rfl, rfl⟩
  | some b =>
      have hcall : b.call.run.2 = [] := by
        have hsilent : (b.call {}).notices = [] := rfl
        rw [Timed.run, hsilent]
        rfl
      exact ⟨rfl, (congrArg (s.told ++ ·) hcall).trans (List.append_nil _)⟩

theorem cell_told_run (s : Session) (uses : List Use) :
    (s.run start uses).cell = s.cell.run start (events uses) ∧
      (s.run start uses).told = s.told := by
  induction uses generalizing s with
  | nil => exact ⟨rfl, rfl⟩
  | cons u uses ih =>
      obtain ⟨hcell, htold⟩ := ih (s.step start u)
      cases u with
      | cell e => exact ⟨hcell, htold⟩
      | construct id =>
          obtain ⟨hsame, hsilent⟩ := s.construct_told_cell id
          exact ⟨hcell.trans (congrArg (Once.run start · (events uses)) hsame),
            htold.trans hsilent⟩

end Session

/-- A document without textures is warned about once for each item without a default texture, if it
can be compiled, and no other document is. Callers that ask again and entities that are constructed
add nothing to that. -/
theorem warnings_once (l : Loader) (c : Cursor) :
    Told c (ofElement l c).run.1 (ofElement l c).run.2 ∧
    ∀ (turns : Nat) (uses : List Use),
      let start := fun _ => compilation l c turns
      let s := Session.run start {} uses
      (∀ a ∈ s.cell.answers, a.2 = (ofElement l c).run.1) ∧
      (s.notices = [] ∨ s.notices = (ofElement l c).run.2) ∧
      ∀ r, s.cell.outcome? = some r →
        r = (ofElement l c).run.1 ∧ s.notices = (ofElement l c).run.2 ∧
          ∀ more, (s.run start more).notices = s.notices := by
  refine ⟨told_ofElement l c, fun turns uses => ?_⟩
  intro start s
  have houtcome : (start 1).outcome = (ofElement l c).run.1 := Course.outcome_after _ _
  have hacts : (start 1).acts = List.replicate turns [] ++ [(ofElement l c).run.2] :=
    (Course.acts_after _ _).trans (List.append_nil _)
  have hended {o : Once (List Notice) Pool} (hkeeps : Once.Keeps start o) {r : Except Fault Pool}
      (hr : o.outcome? = some r) :
      r = (ofElement l c).run.1 ∧ o.acts.flatten = (ofElement l c).run.2 := by
    obtain ⟨hvalue, hall⟩ := hkeeps.ended hr
    rw [hall, hacts]
    exact ⟨hvalue.trans houtcome, by simp⟩
  obtain ⟨hcell, hsaid⟩ : s.cell = Once.run start {} (Session.events uses) ∧ s.told = [] :=
    Session.cell_told_run start {} uses
  have hnotices : s.notices = s.cell.acts.flatten := by
    rw [Session.notices, hsaid, List.append_nil]
  have hkeeps : Once.Keeps start s.cell := hcell ▸ Once.keeps_run start _
  refine ⟨fun a ha => (hkeeps.answers a ha).trans houtcome,
    hnotices ▸ flatten_of_prefix (hacts ▸ hkeeps.acts), fun r hr => ?_⟩
  obtain ⟨hvalue, htold⟩ := hended hkeeps hr
  refine ⟨hvalue, hnotices.trans htold, fun more => ?_⟩
  obtain ⟨hcellMore, hsaidMore⟩ := Session.cell_told_run start s more
  have hkeepsMore : Once.Keeps start (s.run start more).cell := by
    rw [hcellMore, hcell, ← Once.run_append]
    exact Once.keeps_run start _
  have hstays : (s.run start more).cell.outcome? = some r := by
    obtain ⟨course, hcourse, hout⟩ := Option.bind_eq_some_iff.1 hr
    cases course with
    | going act rest => cases hout
    | ended r' =>
        cases hout
        rw [hcellMore]
        exact Once.outcome?_run hcourse (Nat.zero_le _)
  rw [Session.notices, Session.notices, hsaidMore, htold, (hended hkeepsMore hstays).2]

end Pool

end Stagecraft
