import Stagecraft.Proofs.Attempt
import Stagecraft.Stage.Draft

/-!
# Readers that report

Most of what documents say is read by readers that report whatever they cannot read, together with
the element it stands at. Selections hand them elements with the tags that they ask for, so that the
guards on tags do not fail on the way.
-/

namespace Stagecraft

open Markup

namespace Fault

/-- Something is wrong with a definition, as opposed to two items with one id and to loads. -/
def isDefect : Fault → Bool
  | definition _ _ => true
  | _ => false

/-- A definition or a load went wrong, as opposed to two items with one id. -/
def isSingle : Fault → Bool
  | definition _ _ => true
  | load _ _ => true
  | _ => false

/-- Something went wrong in one place, as opposed to two items with one id and to loads. -/
def isLocal : Fault → Bool
  | duplicateId _ _ => false
  | load _ _ => false
  | _ => true

theorem isLocal_of_isDefect {f : Fault} (h : f.isDefect = true) : f.isLocal = true := by
  cases f with
  | definition _ _ => rfl
  | _ => cases h

theorem isSingle_of_isDefect {f : Fault} (h : f.isDefect = true) : f.isSingle = true := by
  cases f with
  | definition _ _ => rfl
  | _ => cases h

theorem isReported_of_isSingle {f : Fault} (h : f.isSingle = true) : f.isReported = true := by
  cases f with
  | definition _ _ => rfl
  | load _ _ => rfl
  | _ => cases h

/-- A fault is a defect, or else it is among these. -/
def DefectOr (P : Fault → Prop) (f : Fault) : Prop := f.isDefect ∨ P f

/-- A fault is that of a definition or of a load, or else it is among these. -/
def SingleOr (P : Fault → Prop) (f : Fault) : Prop := f.isSingle ∨ P f

/-- A fault is reported, or else it is among these. -/
def ReportedOr (P : Fault → Prop) (f : Fault) : Prop := f.isReported ∨ P f

theorem DefectOr.mono {P Q : Fault → Prop} (h : ∀ f, P f → Q f) (f : Fault) :
    f.DefectOr P → f.DefectOr Q := Or.imp_right (h f)

theorem ReportedOr.mono {P Q : Fault → Prop} (h : ∀ f, P f → Q f) (f : Fault) :
    f.ReportedOr P → f.ReportedOr Q := Or.imp_right (h f)

theorem DefectOr.singleOr {P : Fault → Prop} (f : Fault) : f.DefectOr P → f.SingleOr P :=
  Or.imp_left isSingle_of_isDefect

theorem SingleOr.reportedOr {P : Fault → Prop} (f : Fault) : f.SingleOr P → f.ReportedOr P :=
  Or.imp_left isReported_of_isSingle

end Fault

/-- Whatever goes wrong is reported, as a defect of what is read. -/
abbrev Reports {α : Type} (x : Except Fault α) : Prop := Attempt.FailsIn (fun f => f.isDefect) x

theorem Reports.defectOr {α : Type} {x : Except Fault α} (h : Reports x) (P : Fault → Prop) :
    Attempt.FailsIn (Fault.DefectOr P) x := h.mono fun _ => .inl

theorem Reports.singleOr {α : Type} {x : Except Fault α} (h : Reports x) (P : Fault → Prop) :
    Attempt.FailsIn (Fault.SingleOr P) x := (h.defectOr P).mono Fault.DefectOr.singleOr

theorem Reports.or {α : Type} {x : Except Fault α} (h : Reports x) (P : Fault → Prop) :
    Attempt.FailsIn (Fault.ReportedOr P) x := (h.singleOr P).mono Fault.SingleOr.reportedOr

namespace Markup

namespace Cursor

variable (c : Cursor)

theorem tag_of_mem_childrenTagged {c d : Cursor} {tag : String} (h : d ∈ c.childrenTagged tag) :
    d.tag = tag := by
  simpa using (List.mem_filter.1 h).2

theorem tag_of_head?_childrenTagged {c d : Cursor} {tag : String}
    (h : (c.childrenTagged tag).head? = some d) : d.tag = tag :=
  tag_of_mem_childrenTagged (List.mem_of_head? h)

theorem ensure_of_mem {c : Cursor} {tags : List String} (h : c.tag ∈ tags) :
    c.ensure tags = .ok () := if_pos (by simpa using h)

theorem reports_real? (name : String) : Reports (c.real? name) := by
  unfold real?
  split
  · exact .ok _
  · split
    · exact .ok _
    · exact .error rfl

theorem reports_real (name : String) (default : Float) : Reports (c.real name default) :=
  (c.reports_real? name).bind fun _ _ => .ok _

theorem reports_integer? (name : String) : Reports (c.integer? name) := by
  unfold integer?
  split
  · exact .ok _
  · split
    · exact .ok _
    · exact .error rfl

theorem reports_integer (name : String) (default : Int) : Reports (c.integer name default) :=
  (c.reports_integer? name).bind fun _ _ => .ok _

theorem reports_vec2? (x y : String) : Reports (c.vec2? x y) := by
  unfold vec2?
  split
  · exact .ok _
  · exact (c.reports_real x 0).bind fun _ _ => (c.reports_real y 0).bind fun _ _ => .ok _

theorem reports_vec3? (x y z : String) : Reports (c.vec3? x y z) := by
  unfold vec3?
  split
  · exact .ok _
  · exact (c.reports_real x 0).bind fun _ _ => (c.reports_real y 0).bind fun _ _ =>
      (c.reports_real z 0).bind fun _ _ => .ok _

theorem reports_position? : Reports c.position? := c.reports_vec3? "x" "y" "z"

theorem reports_rect : Reports c.rect := by
  unfold rect
  refine (c.reports_real? "w").bind fun w _ => (c.reports_real? "h").bind fun h _ => ?_
  split
  · exact (c.reports_real "x" 0).bind fun _ _ => (c.reports_real "y" 0).bind fun _ _ => .ok _
  · exact .error rfl

theorem reports_plane : Reports c.plane := by
  unfold plane
  dsimp only
  split
  · exact .error rfl
  · refine (c.reports_vec2? "w" "h").bind fun size _ => ?_
    cases size with
    | none => exact .error rfl
    | some size =>
        exact (c.reports_integer "w-segments" 1).bind fun _ _ =>
          (c.reports_integer "h-segments" 1).bind fun _ _ => .ok _

end Cursor

end Markup

theorem Action.reports_needed (c : Cursor) (name : String) : Reports (needed c name) := by
  unfold needed
  split
  · exact .ok _
  · exact .error rfl

theorem Action.reports_ofElement (c : Cursor) : Reports (ofElement c) := by
  unfold ofElement
  split
  · exact (reports_needed c "id").map
  · exact (reports_needed c "event").map
  · exact (reports_needed c "id").map
  · exact .error rfl

theorem Action.reports_allOf (c : Cursor) : Reports (allOf c) :=
  .mapM fun d _ => reports_ofElement d

theorem EventBinding.reports_allOf {c : Cursor} (h : c.tag = "events") : Reports (allOf c) := by
  unfold allOf
  rw [Cursor.ensure_of_mem (by simp [h])]
  refine Attempt.FailsIn.mapM fun d _ => ?_
  unfold ofElement
  split
  · exact .error rfl
  · exact (Action.reports_allOf d).map

theorem SequenceDef.reports_allOf {c : Cursor} (h : c.tag = "sequences") : Reports (allOf c) := by
  unfold allOf
  rw [Cursor.ensure_of_mem (by simp [h])]
  refine Attempt.FailsIn.mapM fun d _ => ?_
  unfold ofElement
  split
  · exact .error rfl
  · exact Attempt.FailsIn.map (.mapM fun e _ => Action.reports_allOf e)

/-- What is declared is read from the children with the tag. -/
theorem failsIn_declared {α : Type} {P : Fault → Prop} {c : Cursor} {tag : String}
    {read : Cursor → Except Fault (List α)}
    (h : ∀ d ∈ c.childrenTagged tag, Attempt.FailsIn P (read d)) :
    Attempt.FailsIn P (declared c tag read) :=
  (Attempt.FailsIn.mapM h).bind fun _ _ => .ok _

theorem reports_events (c : Cursor) : Reports (declared c "events" EventBinding.allOf) :=
  failsIn_declared fun _ hd => EventBinding.reports_allOf (Cursor.tag_of_mem_childrenTagged hd)

theorem reports_sequences (c : Cursor) : Reports (declared c "sequences" SequenceDef.allOf) :=
  failsIn_declared fun _ hd => SequenceDef.reports_allOf (Cursor.tag_of_mem_childrenTagged hd)

theorem Zone.reports_ofElement (c : Cursor) : Reports (ofElement c) := by
  unfold ofElement
  split
  · exact c.reports_rect.map
  · refine (c.reports_real? "r").bind fun r _ => ?_
    cases r with
    | none => exact .error rfl
    | some r =>
        exact (c.reports_real "x" 0).bind fun _ _ => (c.reports_real "y" 0).bind fun _ _ => .ok _
  · exact .error rfl

theorem Zone.reports_allOf (c : Cursor) : Reports (allOf c) := by
  unfold allOf
  split
  · exact .ok _
  · exact .mapM fun d _ => reports_ofElement d

theorem Atlas.reports_texture (a : Atlas) (id : Option String) (place : Option Element) :
    Reports (a.texture id place) := by
  unfold texture
  split
  · split
    · exact .ok _
    · exact .error rfl
  · split
    · exact .ok _
    · exact .error rfl

/-- A text is reported if it names no font, and else fails as the font does. -/
theorem Figure.failsIn_ofText [Application] {P : Fault → Prop}
    (hdefect : ∀ f, f.isDefect = true → P f) {host : Registrations}
    (hfonts : ∀ name font, host.resources.find? "font" name = some (.font font) →
      ∀ s, Attempt.FailsIn P (Application.typeset font s))
    (id : String) (text : Cursor) : Attempt.FailsIn P (ofText host id text) := by
  unfold ofText
  split
  · exact .error (hdefect _ rfl)
  · rename_i name _
    refine Attempt.FailsIn.bind ?_ fun font hfont =>
      (hfonts name font ?_ _).bind fun _ _ => .ok _
    · unfold Registrations.font
      split
      · exact .ok _
      · exact .error (hdefect _ rfl)
    · unfold Registrations.font at hfont
      split at hfont
      · rename_i f hf
        cases hfont
        exact hf
      · cases hfont

theorem Clip.reports_elements (c : Cursor) : Reports (elements c) := by
  refine Attempt.FailsIn.mapM fun sound _ => ?_
  split
  · exact .ok _
  · exact .error rfl

theorem Blueprint.reports_baseOf (host : Registrations) (c : Cursor) : Reports (baseOf host c) := by
  unfold baseOf
  split
  · exact .ok _
  · split
    · exact .ok _
    · exact .error rfl

theorem Pool.failsIn_items (c : Cursor) : Attempt.FailsIn (fun f => f.isReported) (items c) := by
  refine Attempt.FailsIn.foldlM fun found item _ => ?_
  unfold addItem
  split
  · exact .error rfl
  · split
    · exact .error rfl
    · exact .ok _

namespace TraitMaker

theorem reports_resolve (host : Option Registrations) (name : String) (c : Cursor) :
    Reports (resolve host name c) := by
  unfold resolve
  split
  · exact .ok _
  · split
    · exact .ok _
    · exact .error rfl

theorem reports_door (c : Cursor) : Reports (door c) := by
  unfold door
  split
  · exact .ok _
  · exact (Cursor.reports_vec2? _ "x" "y").bind fun _ _ => .ok _

theorem reports_solid (c : Cursor) : Reports (solid c) := by
  unfold solid
  split
  · exact .ok _
  · dsimp only
    split
    · exact .ok _
    · exact .error rfl

theorem reports_spawnItem (host : Registrations) (item : Cursor) :
    Reports (spawnItem host item) := by
  unfold spawnItem
  split
  · refine Attempt.FailsIn.bind ?_ fun found _ => ?_
    · unfold Registrations.object
      split
      · exact .ok _
      · exact .error rfl
    · cases (item.childrenTagged "offset").head? with
      | none => exact .ok _
      | some o => exact o.reports_position?.bind fun _ _ => .ok _
  · exact .error rfl

theorem reports_structured (host : Registrations) (name : String) (c : Cursor) :
    Reports (structured (some host) name c) := by
  unfold structured
  split
  · exact reports_door c
  · exact reports_solid c
  · exact Attempt.FailsIn.bind (.mapM fun item _ => reports_spawnItem host item) fun _ _ => .ok _
  · exact .ok _

end TraitMaker

namespace Camera

theorem reports_path (c : Cursor) : Reports (path c) := by
  unfold path
  split
  · exact .error rfl
  · rename_i w _
    refine (w.reports_real "x1" 0).bind fun _ _ => (w.reports_real "y1" 0).bind fun _ _ =>
      (w.reports_real "x2" 0).bind fun _ _ => (w.reports_real "y2" 0).bind fun _ _ => ?_
    dsimp only
    split
    · exact .ok _
    · rename_i k _
      exact (k.reports_vec3? "x1" "y1" "z1").bind fun _ _ =>
        (k.reports_vec3? "x2" "y2" "z2").bind fun _ _ => .ok _

theorem reports_ofElement {c : Cursor} (h : c.tag = "camera") : Reports (ofElement c) := by
  unfold ofElement
  rw [Cursor.ensure_of_mem (by simp [h])]
  refine (c.reports_real "smoothing" _).bind fun _ _ => ?_
  have hpaths : Reports ((c.childrenTagged "path").mapM path) := .mapM fun d _ => reports_path d
  cases (c.childrenTagged "position").head? with
  | none => exact hpaths.bind fun _ _ => .ok _
  | some p =>
      exact p.reports_position?.bind fun _ _ => hpaths.bind fun _ _ => .ok _

end Camera

namespace SceneDraft

theorem reports_camera (c : Cursor) : Reports (camera c) := by
  unfold camera
  split
  · exact .ok _
  · rename_i d hd
    exact Camera.reports_ofElement (Cursor.tag_of_head?_childrenTagged hd)

theorem reports_transition (c : Cursor) : Reports (transition c) := by
  unfold transition
  dsimp only
  split
  · split
    · exact .ok _
    · exact .error rfl
  · exact .error rfl

theorem reports_handlers (c : Cursor) : Reports (handlers c) := by
  unfold handlers
  split
  · exact .ok _
  · rename_i events hevents
    exact Attempt.FailsIn.bind (.mapM fun d _ => reports_transition d) fun _ _ =>
      (EventBinding.reports_allOf (Cursor.tag_of_head?_childrenTagged hevents)).bind
        fun _ _ => .ok _

theorem reports_gravity (c : Cursor) (default : Vec2) : Reports (gravity c default) := by
  unfold gravity
  split
  · exact .ok _
  · exact (Cursor.reports_vec2? _ "x" "y").bind fun _ _ => .ok _

theorem reports_sceneOf (url : String) (root : Cursor) :
    Attempt.FailsIn (fun f => f.isReported) (sceneOf url root) := by
  unfold sceneOf
  split
  · exact .ok _
  · split
    · exact .ok _
    · exact .error rfl

end SceneDraft

end Stagecraft
