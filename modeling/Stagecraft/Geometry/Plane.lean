import Stagecraft.Geometry.TextureQuad

/-!
# Segmented planes

A plane is cut into segments of two triangular faces each; quad `i` is made of the faces `2 * i`
and `2 * i + 1`. Faces are addressed by an integer: a negative one counts from the end.
-/

namespace Stagecraft

/-- A rectangle of segments, with the texture corners of every face. -/
structure Plane where
  width : Float
  height : Float
  across : Int
  down : Int
  faces : List Face

namespace Plane

/-- The corners of a face that nothing has been drawn on. -/
def blankFace : Face := [(0, 0), (0, 0), (0, 0)]

/-- A plane with blank faces; without segments, or with a negative count of them, it has none. -/
def new (width height : Float) (across down : Int) : Plane :=
  ⟨width, height, across, down, List.replicate (across * down * 2).toNat blankFace⟩

def faceCount (p : Plane) : Nat := p.faces.length

/-- The position that an index of a list of `n` things denotes. -/
def position? (n : Nat) (index : Int) : Option Nat :=
  let i := if index < 0 then index + n else index
  if 0 ≤ i && i < n then some i.toNat else none

def setFace? (p : Plane) (index : Int) (face : Face) : Option Plane :=
  (position? p.faceCount index).map fun i => { p with faces := p.faces.set i face }

theorem faceCount_new (width height : Float) (across down : Int) :
    (new width height across down).faceCount = (across * down * 2).toNat := by
  simp [new, faceCount]

theorem faceCount_setFace? {p q : Plane} {index : Int} {face : Face}
    (h : p.setFace? index face = some q) : q.faceCount = p.faceCount := by
  simp only [setFace?, Option.map_eq_some_iff] at h
  obtain ⟨i, -, rfl⟩ := h
  simp [faceCount]

end Plane

end Stagecraft
