import Stagecraft.Geometry.TextureQuad
import Stagecraft.Number.Binary64

/-!
# Animation timelines

An animation is a list of frames, some of them timed. Its duration is the sum of the timed ones,
and a time shows the first timed frame it falls into, taken modulo the duration. The scan of a
timeline is written for numbers of any kind that can be added, subtracted, compared and taken modulo
others; animations have it with binary64 numbers.
-/

namespace Stagecraft

/-- Numbers with the remainder of a division that rounds the quotient down. -/
class FloorMod (R : Type) where
  modulo : R → R → R

instance : FloorMod Float := ⟨Binary64.modulo⟩

/-- The durations of a list of frames, of which some are not timed. -/
abbrev Timeline (R : Type) := List (Option R)

namespace Timeline

variable {R : Type} [Zero R] [Add R] [Sub R] [LT R] [DecidableLT R] [LE R] [DecidableLE R]
  [FloorMod R]

/-- What the timed frames take together. -/
def duration (t : Timeline R) : R := (t.filterMap id).foldl (· + ·) 0

/-- The first timed frame that a position falls into. -/
def locate? (position : R) : Timeline R → Option Nat
  | [] => none
  | none :: rest => (locate? position rest).map (· + 1)
  | some d :: rest =>
    if position < d then some 0 else (locate? (position - d) rest).map (· + 1)

/-- The frame shown at a time; the last frame if the time falls into none. A timeline without frames
or without a positive duration stands at its first. -/
def indexAt (t : Timeline R) (time : R) : Nat :=
  if t.isEmpty then 0
  else if t.duration ≤ 0 then 0
  else (locate? (FloorMod.modulo time t.duration) t).getD (t.length - 1)

end Timeline

/-- One sample of a sprite sheet, with the time it is shown for. -/
structure Frame where
  quad : TextureQuad
  duration : Option Float

/-- An ordered list of frames. The serial number tells the animations of a document apart. -/
structure Animation where
  id : Option String
  group : Option String
  frames : List Frame
  serial : Nat := 0

namespace Animation

def length (a : Animation) : Nat := a.frames.length

def timeline (a : Animation) : Timeline Float := a.frames.map (·.duration)

def duration (a : Animation) : Float := a.timeline.duration

/-- The frame shown at a time. -/
def indexAt (a : Animation) (time : Float) : Nat := a.timeline.indexAt time

/-- The quad of a frame; a negative index counts from the end. -/
def quad? (a : Animation) (index : Int) : Option TextureQuad :=
  let i := if index < 0 then index + a.length else index
  if i < 0 then none else a.frames[i.toNat]?.map (·.quad)

theorem indexAt_nil (id group : Option String) (time : Float) :
    indexAt ⟨id, group, [], 0⟩ time = 0 := rfl

end Animation

end Stagecraft
