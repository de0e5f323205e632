import Stagecraft.Markup.Attribute

/-!
# Cameras

A camera has a resting position, a smoothing factor and paths: while its target is inside the
window of a path, it stays inside the path's constraint.
-/

namespace Stagecraft

open Markup

/-- Two opposite corners of a box. -/
structure Box where
  low : Vec3 := {}
  high : Vec3 := {}

/-- A window and the box that the camera is held inside. -/
structure CameraPath where
  window : Box
  constraint : Box := {}

structure Camera where
  position : Vec3 := ⟨0, 0, 150⟩
  smoothing : Float := 0
  paths : List CameraPath := []

namespace Camera

def path (c : Cursor) : Except Fault CameraPath := do
  match (c.childrenTagged "window").head? with
  | none => throw (.defect .cameraWindow c.element)
  | some w =>
    let low : Vec3 := ⟨← w.real "x1" 0, ← w.real "y1" 0, 0⟩
    let high : Vec3 := ⟨← w.real "x2" 0, ← w.real "y2" 0, 0⟩
    match (c.childrenTagged "constraint").head? with
    | none => return { window := ⟨low, high⟩ }
    | some k =>
      let inner := (← k.vec3? "x1" "y1" "z1").getD {}
      let outer := (← k.vec3? "x2" "y2" "z2").getD {}
      return { window := ⟨low, high⟩, constraint := ⟨inner, outer⟩ }

def ofElement (c : Cursor) : Except Fault Camera := do
  c.ensure ["camera"]
  let start : Camera := {}
  let smoothing ← c.real "smoothing" start.smoothing
  let position ←
    match (c.childrenTagged "position").head? with
    | none => pure start.position
    | some p => do pure ((← p.position?).getD start.position)
  let paths ← (c.childrenTagged "path").mapM path
  return { position, smoothing, paths }

end Camera

end Stagecraft
