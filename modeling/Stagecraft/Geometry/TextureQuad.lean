import Stagecraft.Geometry.Vector

/-!
# Texture quads

A quad of a sprite sheet in texture coordinates. Pixel offsets and sizes are divided by the size of
the sheet; the vertical axis is turned over, so that pixel row 0 lies at `v = 1`.
-/

namespace Stagecraft

/-- A corner in texture coordinates. -/
abbrev Corner := Float × Float

/-- A triangle of a mesh: its three corners. -/
abbrev Face := List Corner

/-- Two opposite corners of a quad. -/
structure TextureQuad where
  u0 : Float
  v0 : Float
  u1 : Float
  v1 : Float

namespace TextureQuad

/-- The quad at a pixel offset, of a pixel size, on a sheet. There is none on a sheet without
width or height. -/
def ofPixels? (offset size sheet : Vec2) : Option TextureQuad :=
  if sheet.x == 0 || sheet.y == 0 then none
  else some
    { u0 := offset.x / sheet.x
      v0 := 1 - offset.y / sheet.y
      u1 := (offset.x + size.x) / sheet.x
      v1 := 1 - (offset.y + size.y) / sheet.y }

/-- The two triangles of a quad, in the order in which faces take them. -/
def lower (q : TextureQuad) : Face := [(q.u0, q.v0), (q.u0, q.v1), (q.u1, q.v0)]

def upper (q : TextureQuad) : Face := [(q.u0, q.v1), (q.u1, q.v1), (q.u1, q.v0)]

end TextureQuad

end Stagecraft
