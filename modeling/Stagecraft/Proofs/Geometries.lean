import Stagecraft.Proofs.Additions
import Stagecraft.Proofs.Faces

/-!
# Several geometries

The model of an entity is the plane of its first geometry, but the animators of all its geometries
are attached to it. A further geometry so has its say on the first one: where one of its animators
draws on a quad of the first plane, that is what is shown, whatever the faces of the first geometry
say. Two documents, one of which has more of them, only agree on the other quads.
-/

namespace Stagecraft

open Markup

theorem FaceBinding.local_animator (animations : Catalog Animation) :
    Cursor.Local (animator animations) := by
  rintro ⟨e, _, _, _⟩ ⟨_, _, _, _⟩ rfl
  rfl

theorem Figure.local_plane : Cursor.Local Cursor.plane := by
  rintro ⟨e, _, _, _⟩ ⟨_, _, _, _⟩ rfl
  rfl

theorem Figure.local_animatorsOf (a : Atlas) : Cursor.Local (animatorsOf a) := by
  intro g g' h
  have hsel : Selector.ofString "face" = [["face"]] := by decide
  have hfaces := (FaceBinding.local_animator a.animations).mapM (Cursor.tagged_congr h "face")
  unfold animatorsOf FaceBinding.animators
  rw [hsel, Cursor.find_singleton g (by decide), Cursor.find_singleton g' (by decide), hfaces]

namespace Animator

variable {p : Plane} {own : List Animator}

theorem top?_running (own further : List Animator) (dts : List Float) (quad : Nat) :
    top? p ((own ++ further).map (·.running dts)) quad =
      ((top? p further quad).or (top? p own quad)).map (·.running dts) := by
  rw [top?_map (·.running dts) fun _ => Iff.rfl, top?_append]

theorem shown?_running_of_none {further : List Animator} {dts : List Float}
    (h : ∀ an ∈ further, ∀ quad, ¬ an.DrawsOn p quad) (k : Nat) :
    shown? p ((own ++ further).map (·.running dts)) k =
      shown? p (own.map (·.running dts)) k := by
  have hnone : shown? p (further.map (·.running dts)) k = none := by
    rw [shown?_eq_none_iff, top?_map (·.running dts) fun _ => Iff.rfl, Option.map_eq_none_iff,
      top?_eq_none_iff]
    exact fun an han => h an han _
  rw [List.map_append, shown?_append, hnone, Option.none_or]

end Animator

namespace Pool

/-- With additions to a document after the first geometry of an entity, that still gives the model,
and the animators of its faces are the same. On the model a quad shows the last animator of further
geometries that draws on it, and those of the first one only where there is none; so the models of
both documents agree if no further animator draws on them. -/
theorem shows_of_grows [Application] {l : Loader} (hhost : l.host.Standard) {d d' : Document}
    (hgrows : d.Grows d') {pool pool' : Pool}
    (hpool : (Pool.ofElement l (.ofDocument d)).run.1 = .ok pool)
    (hpool' : (Pool.ofElement l (.ofDocument d')).run.1 = .ok pool') {id : String}
    {entry entry' : Entry} (hentry : pool.get? id = some entry)
    (hentry' : pool'.get? id = some entry') {g g' : Cursor} {gs gs' : List Cursor}
    (hg : entry.place.tagged "geometry" = g :: gs)
    (hg' : entry'.place.tagged "geometry" = g' :: gs') (hfirst : g.element = g'.element) :
    ∃ a p own further further', (atlas l (.ofDocument d)).run.1 = .ok a ∧ g.plane = .ok p ∧
      Figure.Drives a g own ∧ List.Forall₂ (Figure.Drives a) gs further ∧
      List.Forall₂ (Figure.Drives a) gs' further' ∧
      ∀ e e', entry.blueprint.build = .ok e → entry'.blueprint.build = .ok e' →
        ∀ dts, ∃ f f' m m', e.updateAll dts = .ok f ∧ e'.updateAll dts = .ok f' ∧
          f.model = some m ∧ f'.model = some m' ∧
          (∀ quad, 2 * quad + 1 < p.faceCount →
            m.plane.Shows quad (((Animator.top? p further.flatten quad).or
              (Animator.top? p own quad)).map (·.running dts)) ∧
            m'.plane.Shows quad (((Animator.top? p further'.flatten quad).or
              (Animator.top? p own quad)).map (·.running dts))) ∧
          ((∀ an ∈ further.flatten ++ further'.flatten, ∀ quad, ¬ an.DrawsOn p quad) →
            m.plane.faces = m'.plane.faces) := by
  obtain ⟨a, p, own, further, hatlas, hplane, hown, hfurther, hrun⟩ :=
    layered_of_updates hhost hpool hentry hg
  obtain ⟨a', p', own', further', hatlas', hplane', hown', hfurther', hrun'⟩ :=
    layered_of_updates hhost hpool' hentry' hg'
  rw [← atlas_of_grows l hgrows, hatlas] at hatlas'
  cases hatlas'
  rw [← Figure.local_plane g g' hfirst, hplane] at hplane'
  cases hplane'
  rw [← Figure.local_animatorsOf a g g' hfirst, hown] at hown'
  cases hown'
  have hdrives {cs : List Cursor} {parts : List (List Animator)}
      (h : cs.mapM (Figure.animatorsOf a) = .ok parts) :
      List.Forall₂ (Figure.Drives a) cs parts :=
    (Attempt.mapM_eq_ok_iff.1 h).imp fun _ _ => Figure.drives_of_animatorsOf
  refine ⟨a, p, own, further, further', hatlas, hplane, Figure.drives_of_animatorsOf hown,
    hdrives hfurther, hdrives hfurther', fun e e' he he' dts => ?_⟩
  obtain ⟨f, m, hf, hanimators, hm, hlayered⟩ := hrun e he dts
  obtain ⟨f', m', hf', hanimators', hm', hlayered'⟩ := hrun' e' he' dts
  rw [hanimators] at hlayered
  rw [hanimators'] at hlayered'
  have hblank := Plane.blank_of_plane hplane
  refine ⟨f, f', m, m', hf, hf', hm, hm', fun quad hquad => ⟨?_, ?_⟩, fun hnone => ?_⟩
  · rw [← Animator.top?_running]
    exact hlayered.shows hblank hquad
  · rw [← Animator.top?_running]
    exact hlayered'.shows hblank hquad
  · refine hlayered.faces_eq hlayered' fun k => ?_
    rw [Animator.shown?_running_of_none fun an han => hnone an (List.mem_append_left _ han),
      Animator.shown?_running_of_none fun an han => hnone an (List.mem_append_right _ han)]

theorem grows_append {further : List Node} (h : areOwn further) (nodes : List Node) :
    Grows nodes (nodes ++ further) := by
  induction nodes with
  | nil =>
      induction further with
      | nil => exact .nil
      | cons node rest ih =>
          unfold areOwn at h
          obtain ⟨hnode, hrest⟩ := Bool.and_eq_true_iff.1 h
          exact .add hnode (ih hrest)
  | cons node nodes ih => exact .keep node ih

/-- More elements inside an entity are additions to its document. -/
theorem grows_holding {further : List Node} (h : areOwn further) (shared : List Node) (id : String)
    (kids : List Node) : (holding shared id kids).Grows (holding shared id (kids ++ further)) := by
  refine ⟨rfl, rfl, rfl, (by decide : "entities" ∉ sharedTags), ?_⟩
  change Grows (shared ++ _) (shared ++ _)
  induction shared with
  | nil => exact .inside _ _ (by decide) (grows_append h kids) .nil
  | cons node shared ih => exact .keep node ih

/-- A geometry that flickers on its only quad. -/
def flickering : List Node :=
  [.element "geometry" [("w", "16"), ("h", "16")] 1
    [.element "face" [("animation", "flicker")] 1 []]]

/-- A geometry with a face for its fourth quad. -/
def farther : List Node :=
  [.element "geometry" [("w", "64"), ("h", "16"), ("w-segments", "4")] 1
    [.element "face" [("animation", "glow"), ("index", "3")] 1 []]]

open Bare in
theorem shows_of_grows_farther :
    ∃ pool pool' entry entry' e e' f f',
      (Pool.ofElement lampLoader (.ofDocument (holding lampShared "lamp" flickering))).run.1 =
        .ok pool ∧
      (Pool.ofElement lampLoader (.ofDocument (holding lampShared "lamp"
        (flickering ++ farther)))).run.1 = .ok pool' ∧
      pool.get? "lamp" = some entry ∧ pool'.get? "lamp" = some entry' ∧
      entry.blueprint.build = .ok e ∧ entry'.blueprint.build = .ok e' ∧
      e.updateAll [0.5, 1] = .ok f ∧ e'.updateAll [0.5, 1] = .ok f' ∧
      f.model.map (·.plane.faces) = f'.model.map (·.plane.faces) := by
  let c : Cursor := .ofDocument (holding lampShared "lamp" flickering)
  let c' : Cursor := .ofDocument (holding lampShared "lamp" (flickering ++ farther))
  obtain ⟨pool, entry, e, hpool, hentry, he, -⟩ : ∃ pool entry e,
      (Pool.ofElement lampLoader c).run.1 = .ok pool ∧ pool.get? "lamp" = some entry ∧
        entry.blueprint.build = .ok e ∧ e.name = some "lamp" :=
    exists_built _ _ _ _ (by decide +kernel)
  obtain ⟨pool', entry', e', hpool', hentry', he', -⟩ : ∃ pool entry e,
      (Pool.ofElement lampLoader c').run.1 = .ok pool ∧ pool.get? "lamp" = some entry ∧
        entry.blueprint.build = .ok e ∧ e.name = some "lamp" :=
    exists_built _ _ _ _ (by decide +kernel)
  let item := (c.child? 2).getD c
  let item' := (c'.child? 2).getD c'
  let g := (item.child? 0).getD item
  let g' := (item'.child? 0).getD item'
  let further := (item'.child? 1).getD item'
  have hplace : entry.place = item := place_of_single hpool hentry rfl
  have hplace' : entry'.place = item' := place_of_single hpool' hentry' rfl
  have hg : entry.place.tagged "geometry" = [g] := by
    rw [hplace]
    rfl
  have hg' : entry'.place.tagged "geometry" = [g', further] := by
    rw [hplace']
    rfl
  obtain ⟨a, p, own, parts, parts', -, hplane, -, hparts, hparts', hrun⟩ :=
    shows_of_grows Registrations.standard_of_nil
      (grows_holding (by decide) lampShared "lamp" flickering) hpool hpool' hentry hentry' hg hg'
      rfl
  obtain ⟨f, f', m, m', hf, hf', hm, hm', -, hagree⟩ := hrun e e' he he' [0.5, 1]
  refine ⟨pool, pool', entry, entry', e, e', f, f', hpool, hpool', hentry, hentry', he, he', hf,
    hf', ?_⟩
  have hacross : g.integer "w-segments" 1 = .ok 1 := rfl
  have hdown : g.integer "h-segments" 1 = .ok 1 := rfl
  have hcount : p.faceCount = 2 := (Figure.describes_of_plane hplane).faceCount_eq hacross hdown
  have hthree : ∀ face ∈ further.tagged "face",
      (FaceBinding.quads face).toOption = some [3] := by decide +kernel
  have hbeyond : ∀ an ∈ parts.flatten ++ parts'.flatten, ∀ quad, ¬ an.DrawsOn p quad := by
    cases hparts
    obtain ⟨as, _, hdrives, hnil, rfl⟩ := List.forall₂_cons_left_iff.1 hparts'
    cases hnil
    have hbinds : List.Forall₂ (FaceBinding.Binds a.animations) (further.tagged "face") as :=
      hdrives
    intro an han quad hdraws
    obtain ⟨face, hface, hbind⟩ := Attempt.exists_mem_of_forall₂ hbinds (by simpa using han)
    have hquads := hthree face hface
    rw [hbind.quads] at hquads
    obtain ⟨n, hn, hmeans⟩ := hdraws.2
    rw [Option.some.inj hquads, List.mem_singleton] at hn
    unfold Plane.Means at hmeans
    omega
  rw [hm, hm', Option.map_some, Option.map_some, hagree hbeyond]

/-- Does the first face begin at the left edge of its picture? -/
def atEdge? (faces : List Face) : Option Bool :=
  (faces.head?.bind List.head?).map fun corner => corner.1 == 0

/-- A geometry without faces, which shows the default animation. -/
def plain : List Node := [.element "geometry" [("w", "16"), ("h", "16")] 1 []]

open Bare in
/-- A further geometry takes the first quad of the model, whose own face wants something else. -/
theorem not_shows_of_further :
    ¬ ∀ (l : Loader) (shared : List Node) (id : String) (kids further : List Node)
        (pool pool' : Pool) (entry entry' : Entry) (e e' : Entity),
        (∀ node ∈ further, node.element?.map (·.tag) = some "geometry") →
        (Pool.ofElement l (.ofDocument (holding shared id kids))).run.1 = .ok pool →
        (Pool.ofElement l (.ofDocument (holding shared id (kids ++ further)))).run.1 = .ok pool' →
        pool.get? id = some entry → pool'.get? id = some entry' →
        entry.place.tagged "geometry" ≠ [] →
        entry.blueprint.build = .ok e → entry'.blueprint.build = .ok e' →
        ∀ dts f f', e.updateAll dts = .ok f → e'.updateAll dts = .ok f' →
          f.model.map (·.plane.faces) = f'.model.map (·.plane.faces) := by
  intro hall
  let edge (e : Entity) : Option Bool := (e.model.map (·.plane.faces)).bind atEdge?
  obtain ⟨pool, entry, e, hpool, hentry, he, hedge⟩ : ∃ pool entry e,
      (Pool.ofElement lampLoader
        (.ofDocument (holding lampShared "lamp" flickering))).run.1 = .ok pool ∧
      pool.get? "lamp" = some entry ∧ entry.blueprint.build = .ok e ∧ edge e = some false :=
    exists_built _ _ _ _ (by decide +kernel)
  obtain ⟨pool', entry', e', hpool', hentry', he', hedge'⟩ : ∃ pool entry e,
      (Pool.ofElement lampLoader
        (.ofDocument (holding lampShared "lamp" (flickering ++ plain)))).run.1 = .ok pool ∧
      pool.get? "lamp" = some entry ∧ entry.blueprint.build = .ok e ∧ edge e = some true :=
    exists_built _ _ _ _ (by decide +kernel)
  have hgeometry : entry.place.tagged "geometry" ≠ [] := by
    rw [place_of_single hpool hentry rfl]
    exact List.cons_ne_nil _ _
  have hfaces := hall lampLoader lampShared "lamp" flickering plain pool pool' entry entry' e e'
    (by decide) hpool hpool' hentry hentry' hgeometry he he' [] e e' rfl rfl
  have hsame : edge e = edge e' := congrArg (·.bind atEdge?) hfaces
  rw [hedge, hedge'] at hsame
  cases hsame

end Pool

end Stagecraft
