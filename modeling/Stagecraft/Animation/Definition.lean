import Stagecraft.Animation.Timeline
import Stagecraft.Markup.Attribute

/-!
# Animation definitions

The frames of an animation element are its frame elements in document order. Consecutive frames
with the same loop around them are a run, which is repeated as often as the loop says. A frame
takes its size from itself, from the element around it or from the one around that, whichever has
one first.
-/

namespace Stagecraft

namespace Animation

open Markup

/-- The number at the start of a text, after blanks and a sign. -/
def leadingInt? (s : String) : Option (List Char) :=
  let cs := s.toList.dropWhile Text.isBlank
  let (sign, rest) :=
    match cs with
    | '-' :: rest => (['-'], rest)
    | '+' :: rest => (['+'], rest)
    | _ => ([], cs)
  let ds := rest.takeWhile Text.isDecimal
  if ds.isEmpty then none else some (sign ++ ds)

/-- How often a loop runs. What is not a number, and zero, mean once. -/
def loopCount (loop : Element) : Except Fault Int :=
  match leadingInt? ((loop.get? "count").getD "") with
  | none => .ok 1
  | some cs =>
    match Numeral.integerChars? (Numeral.toAscii cs) with
    | some n => .ok (if n = 0 then 1 else n)
    | none => .error .badValue

/-- The size of a frame of an animation, looked for in the given elements. -/
def sizeAmong (id : Option String) (frame : Cursor) : List Cursor → Except Fault Vec2
  | [] => .error (.defect (.frameSizeMissing id) frame.element)
  | candidate :: rest => do
    match ← candidate.vec2? "w" "h" with
    | some size =>
      if size.x ≤ 0 || size.y ≤ 0 then throw (.defect (.frameSizeNotPositive id) frame.element)
      else return size
    | none => sizeAmong id frame rest

/-- The elements that may give a frame its size: itself, its parent and its grandparent. -/
def sizeSources (frame : Cursor) : List Cursor :=
  let parent := frame.parent?
  frame :: (parent.toList ++ (parent.bind Cursor.parent?).toList)

def frame (id : Option String) (sheet : Vec2) (c : Cursor) : Except Fault Frame := do
  let offset := (← c.vec2? "x" "y").getD {}
  let size ← sizeAmong id c (sizeSources c)
  match TextureQuad.ofPixels? offset size sheet with
  | none => throw .divisionByZero
  | some quad =>
    let duration := (← c.real? "duration").filter fun d => !(d == 0)
    return ⟨quad, duration⟩

/-- The loop directly around a frame element. -/
def loop? (c : Cursor) : Option Cursor := c.parent?.filter (·.tag = "loop")

def sameParent (a b : Cursor) : Bool := a.address.dropLast == b.address.dropLast

/-- The frames of a list of frame elements. A run is collected while its loop lasts and repeated
when the loop closes. -/
def framesOf (id : Option String) (sheet : Vec2) (run : List Frame) :
    List Cursor → Except Fault (List Frame)
  | [] => .ok []
  | c :: rest => do
    let f ← frame id sheet c
    match loop? c with
    | none => return f :: (← framesOf id sheet run rest)
    | some loop =>
      let run := run ++ [f]
      if (rest.head?.map (sameParent c)).getD false then
        return f :: (← framesOf id sheet run rest)
      else
        let n ← loopCount loop.element
        return f :: ((List.replicate (n - 1).toNat run).flatten ++ (← framesOf id sheet [] rest))

/-- The frame elements of an animation element, which may be a frame itself. -/
def frameElements (c : Cursor) : List Cursor :=
  (c :: c.descendants).filter (·.tag = "frame")

/-- Is the size of a sheet known and not refused? -/
def usableSheet (sheet : Option Vec2) : Option Vec2 :=
  sheet.filter fun size => !(size.x ≤ 0 || size.y ≤ 0)

/-- The animation that an element describes, on a sheet. -/
def ofElement (c : Cursor) (sheet : Option Vec2) : Except Fault Animation := do
  let id := c.get? "id"
  match usableSheet sheet with
  | none => throw (.defect (.sheetSize id) c.element)
  | some sheet =>
    let frames ← framesOf id sheet [] (frameElements c)
    return { id, group := (c.get? "group").filter (· ≠ ""), frames }

theorem loopCount_of_absent {loop : Element} (h : loop.get? "count" = none) :
    loopCount loop = .ok 1 := by
  simp [loopCount, h, leadingInt?]

theorem framesOf_nil (id : Option String) (sheet : Vec2) (run : List Frame) :
    framesOf id sheet run [] = .ok [] := rfl

end Animation

end Stagecraft
