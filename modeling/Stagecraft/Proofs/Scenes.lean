import Stagecraft.Proofs.Layouts
import Stagecraft.Proofs.Overlaps

/-!
# Loading scenes

Loading a scene either gives a draft or fails, and then the failure is reported with the element or
the address it is about. There are two exceptions. A document that a scene takes its objects from is
guarded by its root: another one is refused, but not reported. And documents may have one of the
flaws that nothing looks at, which includes what sites, readers and decoders raise in a way of their
own. Every part of the compilation is shown to fail in these ways only, and the scene is put
together from its parts.
-/

namespace Stagecraft

open Markup

namespace SceneDraft

/-- The elements that a layout has for its objects. -/
def placed (c : Cursor) : List Cursor := c.find (Selector.ofString "layout > objects > object")

/-- The elements that a layout has for rectangles that behave in some way. -/
def zoned (c : Cursor) : List Cursor := c.find (Selector.ofString "layout > behaviors > * > rect")

/-- The tags that the root of a pool may have. -/
def poolTags : List String := Pool.itemTags.map (·.1)

theorem tag_of_sceneOf {url : String} {root c : Cursor} (h : sceneOf url root = .ok c) :
    c.tag = "scene" := by
  unfold sceneOf at h
  split at h
  · rename_i htag
    cases h
    exact htag
  · split at h
    · rename_i d hd
      cases h
      have hsel : Selector.ofString "scene" = [["scene"]] := by decide
      rw [Cursor.first?_eq_head?, hsel, Cursor.find_singleton root (by decide)] at hd
      simpa using (List.mem_filter.1 (List.mem_of_head? hd)).2
    · cases h

theorem clean_of_sceneOf {url : String} {root c : Cursor} (hclean : root.element.Clean)
    (h : sceneOf url root = .ok c) : c.element.Clean := by
  unfold sceneOf at h
  split at h
  · cases h
    exact hclean
  · split at h
    · rename_i d hd
      cases h
      rw [Cursor.first?_eq_head?] at hd
      exact Cursor.clean_of_mem_find hclean (List.mem_of_head? hd)
    · cases h

section

variable [Application]

/-- A document that a scene takes its objects from has another root than pools have, and it is
refused for that. -/
def Misrooted (l : Loader) (c : Cursor) (f : Fault) : Prop :=
  ∃ o ∈ c.childrenTagged "objects", ∃ root, (l.follow o).run.1 = .ok root ∧
    root.tag ∉ poolTags ∧ f = .wrongElement root.element.toText poolTags

/-- The flaws of a scene: those of the addresses it refers to, of its pools, of its layout, and what
becomes of the loads that others have begun. -/
inductive Flaw (l : Loader) (c : Cursor) : Fault → Prop
  | sound {sound : Cursor} {f : Fault} (hsound : sound ∈ Clip.sources c)
      (h : l.StraysToSound sound f) : Flaw l c f
  | reference {o : Cursor} {f : Fault} (ho : o ∈ c.childrenTagged "objects")
      (h : l.StraysToDocument o f) : Flaw l c f
  | pool {o root : Cursor} {f : Fault} (ho : o ∈ c.childrenTagged "objects")
      (hroot : (l.follow o).run.1 = .ok root) (h : Pool.Flaw l root f) : Flaw l c f
  | placement {pool : Pool} {o : Cursor} {f : Fault} (hpool : (objects l c).run.1 = .ok pool)
      (ho : o ∈ placed c) (h : Placement.Flaw l pool o f) : Flaw l c f
  | underway {u : Load} {f : Fault} (hu : u ∈ l.underway) (h : u.fault = some f) : Flaw l c f

/-- What a scene may fail with besides reports. -/
def Unreported (l : Loader) (c : Cursor) (f : Fault) : Prop := Misrooted l c f ∨ Flaw l c f

variable {l : Loader} {c : Cursor}

/-- With nothing registered, the objects of a scene are plain. -/
theorem plain_of_objects (hhost : l.host = {}) {pool : Pool} {s : Start}
    (h : (objects l c s).result = .ok pool) :
    ∀ id entry, pool.get? id = some entry → entry.blueprint.Plain id := by
  intro id entry hentry
  obtain ⟨o, -, p, ⟨root, -, -, hroot⟩, hmem⟩ := exists_of_objects h hentry
  exact Blueprint.plain_of_compile hhost hroot hmem

/-- A scene that has not been settled holds what has been placed. -/
theorem unsettled_eq_ok {s : Start} {d : SceneDraft} (h : (unsettled l c s).result = .ok d) :
    (objects l c).run.1 = .ok d.pool ∧ ∃ w gravity,
      Placement.all Placement.behavior {} (zoned c) = .ok (w, d.behaviors) ∧
      Placement.all (Placement.object l d.pool) { w with gravity } (placed c) =
        .ok (d.world, d.layout) := by
  obtain ⟨camera, -, h⟩ := Timed.bind_eq_ok_iff.1 h
  obtain ⟨bus, -, h⟩ := Timed.bind_eq_ok_iff.1 h
  obtain ⟨⟨w, behaviors⟩, hbehaviors, h⟩ := Timed.bind_eq_ok_iff.1 h
  obtain ⟨gravity, -, h⟩ := Timed.bind_eq_ok_iff.1 h
  obtain ⟨sequences, -, h⟩ := Timed.bind_eq_ok_iff.1 h
  obtain ⟨⟨audio, pool⟩, hboth, h⟩ := Timed.bind_eq_ok_iff.1 h
  obtain ⟨⟨w', layout⟩, hlayout, h⟩ := Timed.bind_eq_ok_iff.1 h
  obtain ⟨_, -, h⟩ := Timed.bind_eq_ok_iff.1 h
  cases h
  exact ⟨(steady_objects l c).run (Timed.both_eq_ok_iff.1 hboth).2, w, gravity, hbehaviors,
    hlayout⟩

variable (hhost : l.host = {}) (hread : l.ReadsClean)

include hhost hread

/-- The objects of a scene are read from its pools, each of which is guarded by its root. -/
theorem failsIn_objects (hclean : c.element.Clean) :
    Timed.FailsIn (Fault.ReportedOr (Unreported l c)) (objects l c) := by
  refine Timed.FailsIn.bind (.gather fun w hw => ?_) fun roots s hroots => ?_
  · obtain ⟨o, ho, rfl⟩ := List.mem_map.1 hw
    exact fun s f h => (l.failsIn_follow o s f h).imp_right fun hf => .inr (.reference ho hf)
  rw [Timed.Steady.gather_eq_ok_iff (steady_roots l _), List.forall₂_map_left_iff] at hroots
  refine Timed.FailsIn.bind (.forIn fun root hroot _ => ?_) fun _ _ _ => ?_
  · refine Timed.FailsIn.bind (.lift ?_) fun _ _ _ => .pure _
    obtain ⟨o, ho, hfollow⟩ := Attempt.exists_mem_of_forall₂ hroots hroot
    unfold Pool.check Cursor.ensure
    split
    · exact .ok _
    · rename_i htag
      refine .error (.inr (.inl ⟨o, ho, root, hfollow, ?_, rfl⟩))
      exact fun hmem => htag (List.contains_iff_mem.2 hmem)
  · refine Timed.FailsIn.bind (.gather fun w hw => ?_) fun pools _ _ =>
      .foldlM fun all pool _ => ?_
    · obtain ⟨root, hroot, rfl⟩ := List.mem_map.1 hw
      obtain ⟨o, ho, hfollow⟩ := Attempt.exists_mem_of_forall₂ hroots hroot
      have hclean :=
        Loader.clean_of_follow hread (Cursor.clean_of_mem_childrenTagged hclean ho) hfollow
      intro s f h
      exact (Pool.failsIn_ofElement hhost hclean s f h).imp_right fun hf =>
        .inr (.pool ho hfollow hf)
    · refine Timed.FailsIn.bind (.forIn fun e _ _ => ?_) fun _ _ _ => .pure _
      split
      · exact (Timed.FailsIn.notice _).bind fun _ _ _ => .pure _
      · exact .pure _

/-- Until it is settled, what goes wrong with a scene is reported, or stems from a pool with another
root or a flaw. -/
theorem failsIn_unsettled (hclean : c.element.Clean) :
    Timed.FailsIn (Fault.ReportedOr (Unreported l c)) (unsettled l c) := by
  unfold unsettled
  refine Timed.FailsIn.bind (.lift (Reports.or (reports_camera c) _)) fun camera _ _ => ?_
  refine Timed.FailsIn.bind (.lift (Reports.or (reports_handlers c) _)) fun bus _ _ => ?_
  refine Timed.FailsIn.bind (.lift (Reports.or
    (Placement.failsIn_all fun d _ => Placement.reports_behavior d) _)) ?_
  rintro ⟨world, behaviors⟩ _ -
  dsimp only
  refine Timed.FailsIn.bind (.lift (Reports.or (reports_gravity c _) _)) fun gravity _ _ => ?_
  refine Timed.FailsIn.bind (.lift (Reports.or (reports_sequences c) _)) fun sequences _ _ => ?_
  refine Timed.FailsIn.bind (.both (fun s f h => ?_) (failsIn_objects hhost hread hclean)) ?_
  · refine (Fault.SingleOr.reportedOr f (Clip.failsIn_allOf l c s f h)).imp_right ?_
    rintro ⟨sound, hsound, hstrays⟩
    exact .inr (.sound hsound hstrays)
  rintro ⟨audio, pool⟩ s hboth
  dsimp only
  have hobjects := (Timed.both_eq_ok_iff.1 hboth).2
  have hpool := (steady_objects l c).run hobjects
  have hplain := plain_of_objects hhost hobjects
  refine Timed.FailsIn.bind (.lift (Placement.failsIn_all fun o ho => ?_)) ?_
  · have hclean := Cursor.clean_of_mem_find hclean ho
    exact (Placement.failsIn_object hhost hplain hclean).mono <|
      Fault.ReportedOr.mono fun _ hf => .inr (.placement hpool ho hf)
  rintro ⟨placedWorld, layout⟩ _ -
  refine Timed.FailsIn.bind (.complete fun u hu f hf => .inr (.inr (.underway hu hf)))
    fun _ _ _ => .pure _

omit hread in
/-- A scene that has not been settled holds sound entities, unless a trait is flawed. -/
theorem sound_of_unsettled {s : Start} {d : SceneDraft}
    (h : (unsettled l c s).result = .ok d) :
    ∀ e ∈ d.world.objects, e.Sound (Flaw l c .typeMismatch) := by
  obtain ⟨hpool, w, gravity, hbehaviors, hlayout⟩ := unsettled_eq_ok h
  have hplain := plain_of_objects hhost hpool
  have hobjects : ∀ e ∈ w.objects, e.Sound (Flaw l c .typeMismatch) :=
    Placement.sound_of_all (fun _ he => absurd he List.not_mem_nil)
      (fun _ _ _ _ hd => (Placement.sound_of_behavior hd).mono False.elim) hbehaviors
  exact Placement.sound_of_all (w := { w with gravity }) hobjects (fun o ho _ _ hd =>
    (Placement.sound_of_object hhost hplain hd).mono (.placement hpool ho)) hlayout

/-- What goes wrong with a scene is reported, or stems from a pool with another root or a flaw. -/
theorem failsIn_compile (hclean : c.element.Clean) :
    Timed.FailsIn (Fault.ReportedOr (Unreported l c)) (compile l c) := by
  refine Timed.FailsIn.bind (failsIn_unsettled hhost hread hclean) fun d s hd => ?_
  refine Timed.FailsIn.bind (.lift (Attempt.FailsIn.bind ?_ fun _ _ => .ok _)) fun _ _ _ =>
    (Timed.FailsIn.notice _).bind fun _ _ _ => .pure _
  refine (World.failsIn_settle (sound_of_unsettled hhost hd)).mono ?_
  rintro f ⟨rfl, hf⟩
  exact .inr (.inr hf)

end

/-- A scene that takes its objects from a document with another root than pools have. -/
def misrooted : Loader where
  storage :=
    { files :=
        [(["scene.xml"], .text "<scene><objects src='pool.xml'/></scene>"),
          (["pool.xml"], .text "<pool/>")] }

end SceneDraft

end Stagecraft
