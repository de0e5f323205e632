import Stagecraft.Animation.Timeline
import Stagecraft.Fault
import Stagecraft.Geometry.Plane

/-!
# Animators

An animator draws the current frame of an animation on quads of the planes it is attached to.
Planes are kept by whoever owns them and are named here by their position in that list. A quad
beyond the end of a plane is passed over; a negative quad number addresses faces from the end, and
what was drawn before an address fails stays drawn.
-/

namespace Stagecraft

/-- Draws an animation on quads of planes. -/
structure Animator where
  animation : Option Animation := none
  quads : List Int := [0]
  offset : Float := 0
  time : Float := 0
  planes : List Nat := []

/-- Drawing on a list of planes. A failure keeps what has been drawn. -/
abbrev Draw := ExceptT Fault (StateM (List Plane))

namespace Animator

/-- Binds an animation. Another one than before starts from its beginning. -/
def setAnimation (a : Animator) (animation : Animation) : Animator :=
  if a.animation.map (·.serial) = some animation.serial then a
  else { a with animation := some animation, time := 0 }

def attach (a : Animator) (plane : Nat) : Animator := { a with planes := a.planes ++ [plane] }

/-- A fresh animator with the same binding, at its beginning and attached to nothing. -/
def fresh (a : Animator) : Animator := { a with time := 0, planes := [] }

def currentIndex (a : Animator) : Nat :=
  match a.animation with
  | none => 0
  | some animation => animation.indexAt (a.time + a.offset)

def advance (a : Animator) (dt : Float) : Animator := { a with time := a.time + dt }

/-- The quad shown now, unless there is nothing to show. -/
def currentQuad? (a : Animator) : Option TextureQuad :=
  a.animation.bind fun animation => animation.quad? a.currentIndex

def drawQuad (quad : TextureQuad) (plane : Nat) (index : Int) : Draw Unit := do
  let planes ← get
  match planes[plane]? with
  | none => return ()
  | some p =>
    let face := 2 * index
    if (p.faceCount : Int) ≤ face + 1 then return ()
    match p.setFace? face quad.lower with
    | none => throw .indexRange
    | some p =>
      set (planes.set plane p)
      match p.setFace? (face + 1) quad.upper with
      | none => throw .indexRange
      | some p => set (planes.set plane p)

/-- Draws the current frame on every quad of every plane. -/
def draw (a : Animator) : Draw Unit :=
  match a.currentQuad? with
  | none => return ()
  | some quad => a.planes.forM fun plane => a.quads.forM (drawQuad quad plane)

/-- Lets time pass and draws. The time has passed even if drawing fails. -/
def update (a : Animator) (dt : Float) (planes : List Plane) :
    Animator × List Plane × Except Fault Unit :=
  let a := a.advance dt
  let (result, planes) := a.draw.run.run planes
  (a, planes, result)

theorem currentIndex_of_none (a : Animator) (h : a.animation = none) : a.currentIndex = 0 := by
  simp [currentIndex, h]

theorem currentIndex_of_some {a : Animator} {animation : Animation}
    (h : a.animation = some animation) :
    a.currentIndex = animation.indexAt (a.time + a.offset) := by
  simp [currentIndex, h]

@[simp]
theorem quads_setAnimation (a : Animator) (animation : Animation) :
    (a.setAnimation animation).quads = a.quads := by
  unfold setAnimation
  split <;> rfl

end Animator

end Stagecraft
