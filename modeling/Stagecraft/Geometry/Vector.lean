/-!
# Vectors and rectangles

Points, sizes and boxes in pixels or world units, with binary64 components.
-/

namespace Stagecraft

structure Vec2 where
  x : Float := 0.0
  y : Float := 0.0
  deriving Inhabited

structure Vec3 where
  x : Float := 0.0
  y : Float := 0.0
  z : Float := 0.0
  deriving Inhabited

namespace Vec3

def add (a b : Vec3) : Vec3 := ⟨a.x + b.x, a.y + b.y, a.z + b.z⟩

def scale (a : Vec3) (factor : Float) : Vec3 := ⟨a.x * factor, a.y * factor, a.z * factor⟩

end Vec3

/-- A rectangle along the axes. -/
structure Rect where
  x : Float
  y : Float
  w : Float
  h : Float

end Stagecraft
