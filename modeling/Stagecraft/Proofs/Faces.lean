import Stagecraft.Proofs.Instances
import Stagecraft.Proofs.Layers

/-!
# What faces show

A geometry element is compiled to a plane and to animators, one for each face element below it. Here
both ends are put together: from the face elements of a document to the frames that are on the model
of an instance, after any number of updates.
-/

namespace Stagecraft

open Markup

namespace FaceBinding

/-- An animator is the one that a face element binds. -/
structure Binds (animations : Catalog Animation) (face : Cursor) (a : Animator) : Prop where
  animation : ∃ id, face.get? "animation" = some id ∧ animations.get? id = a.animation
  bound : a.animation.isSome
  quads : FaceBinding.quads face = .ok a.quads
  offset : face.real "offset" 0 = .ok a.offset

theorem binds_of_animator {animations : Catalog Animation} {face : Cursor} {a : Animator}
    (h : animator animations face = .ok a) : Binds animations face a := by
  unfold animator at h
  split at h
  · cases h
  · rename_i id hid
    split at h
    · cases h
    · rename_i animation hanimation
      obtain ⟨quads, hquads, h⟩ := Attempt.bind_eq_ok_iff.1 h
      obtain ⟨offset, hoffset, h⟩ := Attempt.bind_eq_ok_iff.1 h
      cases h
      exact ⟨⟨id, (Option.filter_eq_some_iff.1 hid).1, hanimation⟩, rfl, hquads, hoffset⟩

end FaceBinding

namespace Figure

/-- Animators are those of a geometry element: one for each face element below it or, without any,
one for the default animation if there is one. -/
def Drives (a : Atlas) (g : Cursor) (as : List Animator) : Prop :=
  match g.tagged "face" with
  | [] => as = (a.defaultAnimation?.map fun animation => { animation := some animation }).toList
  | faces => List.Forall₂ (FaceBinding.Binds a.animations) faces as

variable {a : Atlas} {g : Cursor} {as : List Animator}

theorem drives_of_animatorsOf (h : animatorsOf a g = .ok as) : Drives a g as := by
  have hsel : Selector.ofString "face" = [["face"]] := by decide
  obtain ⟨bound, hbound, h⟩ := Attempt.bind_eq_ok_iff.1 h
  rw [hsel, Cursor.find_singleton g (by decide)] at hbound
  have hread := Attempt.mapM_eq_ok_iff.1 hbound
  unfold Drives
  cases hfaces : g.tagged "face" with
  | nil =>
      rw [hfaces] at hread
      cases hread
      cases h
      rfl
  | cons face faces =>
      rw [hfaces] at hread
      obtain ⟨first, rest, -, -, rfl⟩ := List.forall₂_cons_left_iff.1 hread
      cases h
      exact hread.imp fun _ _ => FaceBinding.binds_of_animator

/-- An entity with geometries has the plane of the first and the animators of all. -/
theorem exists_parts [Application] {host : Registrations} {id : String} {c : Cursor}
    {gs : List Cursor} {f : Figure} (hg : c.tagged "geometry" = g :: gs)
    (h : ofElement host a id c = .ok f) :
    ∃ p own further, g.plane = .ok p ∧ animatorsOf a g = .ok own ∧
      gs.mapM (animatorsOf a) = .ok further ∧ f.planes.head? = some p ∧
      f.animators = own ++ further.flatten := by
  have hsel : Selector.ofString "geometry" = [["geometry"]] := by decide
  unfold ofElement at h
  rw [hsel, Cursor.find_singleton c (by decide), hg] at h
  obtain ⟨parts, hparts, h⟩ := Attempt.bind_eq_ok_iff.1 h
  cases h
  obtain ⟨part, rest, hpart, hrest, rfl⟩ :=
    List.forall₂_cons_left_iff.1 (Attempt.mapM_eq_ok_iff.1 hparts)
  have hread (d : Cursor) (q : Plane × List Animator) (hq : Figure.part a d = .ok q) :
      d.plane = .ok q.1 ∧ animatorsOf a d = .ok q.2 := by
    obtain ⟨plane, hplane, hq⟩ := Attempt.bind_eq_ok_iff.1 hq
    obtain ⟨bound, hbound, hq⟩ := Attempt.bind_eq_ok_iff.1 hq
    cases hq
    exact ⟨hplane, hbound⟩
  obtain ⟨hplane, hown⟩ := hread g part hpart
  refine ⟨part.1, part.2, rest.map (·.2), hplane, hown, ?_, rfl, rfl⟩
  rw [Attempt.mapM_eq_ok_iff, List.forall₂_map_right_iff]
  exact hrest.imp fun d q hq => (hread d q hq).2

end Figure

/-- A plane has as many faces as its element says. -/
theorem Figure.Describes.faceCount_eq {g : Cursor} {p : Plane} (h : Figure.Describes g p)
    {across down : Int} (hacross : g.integer "w-segments" 1 = .ok across)
    (hdown : g.integer "h-segments" 1 = .ok down) : p.faceCount = (across * down * 2).toNat := by
  rw [h.faceCount, ← Except.ok.inj (hacross.symm.trans h.across),
    ← Except.ok.inj (hdown.symm.trans h.down)]

namespace Plane

/-- Nothing has been drawn on a plane. -/
def Blank (p : Plane) : Prop := ∀ k, k < p.faceCount → p.faces[k]? = some blankFace

theorem blank_new (width height : Float) (across down : Int) :
    (new width height across down).Blank := by
  intro k hk
  rw [faceCount_new] at hk
  simp [new, hk]

/-- A quad of a plane shows what an animator shows now or, without any, is blank. -/
def Shows (p : Plane) (quad : Nat) : Option Animator → Prop
  | none => p.faces[2 * quad]? = some blankFace ∧ p.faces[2 * quad + 1]? = some blankFace
  | some a => ∃ animation q, a.animation = some animation ∧
      animation.quad? (animation.indexAt (a.time + a.offset)) = some q ∧
      p.faces[2 * quad]? = some q.lower ∧ p.faces[2 * quad + 1]? = some q.upper

theorem segmented_of_plane {g : Cursor} {p : Plane} (h : g.plane = .ok p) : p.Segmented :=
  (Figure.describes_of_plane h).faceCount

theorem blank_of_plane {g : Cursor} {p : Plane} (h : g.plane = .ok p) : p.Blank := by
  unfold Cursor.plane at h
  dsimp only at h
  split at h
  · cases h
  · obtain ⟨size, -, h⟩ := Attempt.bind_eq_ok_iff.1 h
    split at h
    · cases h
    · obtain ⟨across, -, h⟩ := Attempt.bind_eq_ok_iff.1 h
      obtain ⟨down, -, h⟩ := Attempt.bind_eq_ok_iff.1 h
      cases h
      exact blank_new _ _ _ _

theorem Layered.shows {as : List Animator} {p r : Plane} (h : Layered as p r) (hp : p.Blank)
    {quad : Nat} (hquad : 2 * quad + 1 < p.faceCount) : r.Shows quad (Animator.top? p as quad) := by
  have hlower := h.face (2 * quad)
  have hupper := h.face (2 * quad + 1)
  rw [hp _ (by omega)] at hlower
  rw [hp _ hquad] at hupper
  have heven : 2 * quad / 2 = quad := by omega
  have hodd : (2 * quad + 1) / 2 = quad := by omega
  unfold Animator.shown? at hlower hupper
  rw [heven] at hlower
  rw [hodd] at hupper
  cases htop : Animator.top? p as quad with
  | none =>
      rw [htop] at hlower hupper
      exact ⟨hlower, hupper⟩
  | some a =>
      obtain ⟨-, -, q, hq⟩ := Animator.exists_quad_of_top? htop
      obtain ⟨animation, hanimation, hframe⟩ := Option.bind_eq_some_iff.1 hq
      rw [Animator.currentIndex_of_some hanimation] at hframe
      rw [htop, Option.bind_some, hq] at hlower hupper
      refine ⟨animation, q, hanimation, hframe, hlower.trans ?_, hupper.trans ?_⟩
      · simp [TextureQuad.face]
      · simp [TextureQuad.face]

end Plane

namespace Animator

/-- An animator of an instance, after updates. -/
def running (a : Animator) (dts : List Float) : Animator :=
  { a with time := dts.foldl (· + ·) 0, planes := [0] }

/-- The last animator that has something to show and lists a quad. -/
def last? (as : List Animator) (quad : Nat) : Option Animator :=
  (as.filter fun a => a.shows && decide ((quad : Int) ∈ a.quads)).getLast?

theorem top?_of_nonneg {p : Plane} {as : List Animator} {quad : Nat}
    (h : ∀ a ∈ as, ∀ n ∈ a.quads, 0 ≤ n) (hquad : 2 * quad + 1 < p.faceCount) :
    top? p as quad = last? as quad := by
  unfold top? last?
  congr 1
  refine List.filter_congr fun a ha => ?_
  have hmeans : (∃ n ∈ a.quads, p.Means n quad) ↔ (quad : Int) ∈ a.quads := by
    constructor
    · rintro ⟨n, hn, hmeans⟩
      obtain ⟨rfl, -⟩ := (Plane.means_iff_of_nonneg (h a ha n hn)).1 hmeans
      exact hn
    · intro hn
      exact ⟨quad, hn, (Plane.means_iff_of_nonneg (h a ha _ hn)).2 ⟨rfl, hquad⟩⟩
  simp [DrawsOn, hmeans]

end Animator

namespace Pool

section

variable [Application] {l : Loader} {c : Cursor} {pool : Pool} {id : String} {entry : Entry}

/-- The model of an instance is the plane of the first geometry, and what is drawn on it are the
frames of the animators of all geometries, in the order of the document. -/
theorem layered_of_updates (hhost : l.host.Standard)
    (hpool : (Pool.ofElement l c).run.1 = .ok pool) (hentry : pool.get? id = some entry)
    {g : Cursor} {gs : List Cursor} (hg : entry.place.tagged "geometry" = g :: gs) :
    ∃ a p own further, (atlas l c).run.1 = .ok a ∧ g.plane = .ok p ∧
      Figure.animatorsOf a g = .ok own ∧ gs.mapM (Figure.animatorsOf a) = .ok further ∧
      ∀ e, entry.blueprint.build = .ok e → ∀ dts, ∃ f m, e.updateAll dts = .ok f ∧
        f.animators = (own ++ further.flatten).map (·.running dts) ∧ f.model = some m ∧
        p.Layered f.animators m.plane := by
  obtain ⟨a, hatlas, -, hentries⟩ := compile_eq_ok hpool
  obtain ⟨item, -, h⟩ := Attempt.exists_mem_of_forall₂ hentries (Catalog.mem_of_get? hentry)
  have hplace : entry.place = item := h.place
  rw [hplace] at hg
  obtain ⟨p, own, further, hplane, hown, hfurther, hhead, hanimators⟩ :=
    Figure.exists_parts hg h.reads.figure
  refine ⟨a, p, own, further, hatlas, hplane, hown, hfurther, fun e he dts => ?_⟩
  have hsegmented := Plane.segmented_of_plane hplane
  obtain ⟨hdisplays, hfits⟩ := Blueprint.displays_of_build hhead hsegmented
    (Blueprint.standard_of_reads hhost h.reads) he
  obtain ⟨f, hf, hrun, m, hm, hlayered⟩ := hdisplays.updateAll hsegmented hfits dts
  have hinstance : entry.blueprint.instanceAnimators =
      (own ++ further.flatten).map fun an => an.fresh.attach 0 := by
    unfold Blueprint.instanceAnimators
    rw [if_neg, ← hanimators]
    cases hplanes : entry.blueprint.planes with
    | nil =>
        rw [hplanes] at hhead
        cases hhead
    | cons q qs => simp
  rw [hinstance, List.map_map] at hrun hlayered
  exact ⟨f, m, hf, hrun, hm, hrun ▸ hlayered⟩

/-- A document of one entity, after what is shared in it. -/
def holding (shared : List Node) (id : String) (kids : List Node) : Document :=
  ⟨⟨"entities", [], 1, shared ++ [.element "entity" [("id", id)] 1 kids]⟩, none⟩

/-- An entry whose entity can be built to something with a property. -/
theorem exists_built {α : Type} (l : Loader) (c : Cursor) (id : String) (q : Entity → Option α)
    {x : α} (h : (((Pool.ofElement l c).run.1.toOption.bind (·.get? id)).bind
      (·.blueprint.build.toOption)).bind q = some x) :
    ∃ pool entry e, (Pool.ofElement l c).run.1 = .ok pool ∧ pool.get? id = some entry ∧
      entry.blueprint.build = .ok e ∧ q e = some x := by
  obtain ⟨e, he, hq⟩ := Option.bind_eq_some_iff.1 h
  obtain ⟨entry, hentry, hbuild⟩ := Option.bind_eq_some_iff.1 he
  obtain ⟨pool, hpool, hget⟩ := Option.bind_eq_some_iff.1 hentry
  have hok {β : Type} {y : Except Fault β} {b : β} (hy : y.toOption = some b) : y = .ok b := by
    cases y <;> cases hy
    rfl
  exact ⟨pool, entry, e, hok hpool, hget, hok hbuild, hq⟩

/-- The entry of the only item of a document was compiled from it. -/
theorem place_of_single (hpool : (Pool.ofElement l c).run.1 = .ok pool)
    (hentry : pool.get? id = some entry) {item : Cursor}
    (hitems : c.childrenTagged (itemTag c) = [item]) : entry.place = item := by
  obtain ⟨a, -, -, hentries⟩ := compile_eq_ok hpool
  obtain ⟨only, honly, h⟩ := Attempt.exists_mem_of_forall₂ hentries (Catalog.mem_of_get? hentry)
  rw [hitems] at honly
  rw [← List.mem_singleton.1 honly]
  exact h.place

end

/-- A loader with one picture. -/
def lampLoader : Loader := { storage := { files := [(["s.png"], .picture 16 16)] } }

/-- A lamp that glows on the left half of a picture and flickers on both. -/
def lampShared : List Node :=
  [.element "textures" [] 1 [.element "texture" [("url", "s.png")] 1 []],
    .element "animations" [("w", "8"), ("h", "16")] 1
      [.element "animation" [("id", "glow")] 1 [.element "frame" [] 1 []],
        .element "animation" [("id", "flicker")] 1
          [.element "frame" [("x", "8"), ("y", "0"), ("duration", "1")] 1 [],
            .element "frame" [("duration", "1")] 1 []]]]

/-- A lamp with three quads. Two faces want the second of them, none the third. -/
def lamp : Cursor :=
  .ofDocument (holding lampShared "lamp"
    [.element "geometry" [("w", "48"), ("h", "16"), ("w-segments", "3")] 1
      [.element "face" [("animation", "flicker"), ("index", "0,1")] 1 [],
        .element "face" [("animation", "glow"), ("index", "1,5")] 1 []]])

end Pool

end Stagecraft
