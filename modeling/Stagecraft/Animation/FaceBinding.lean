import Stagecraft.Animation.Animator
import Stagecraft.Catalog
import Stagecraft.Markup.Attribute

/-!
# Face bindings

A face element binds an animation to quads of a geometry. The quads are listed one by one, or given
as ranges with both ends included and an optional step; without either, quad 0 is meant.
-/

namespace Stagecraft

namespace FaceBinding

open Markup

/-- Digits after blanks, and the rest. -/
def digits? (cs : List Char) : Option (List Char × List Char) :=
  let cs := cs.dropWhile Text.isBlank
  let ds := cs.takeWhile Text.isDecimal
  if ds.isEmpty then none else some (ds, cs.dropWhile Text.isDecimal)

/-- A mark after blanks, and the rest. -/
def mark? (mark : Char) (cs : List Char) : Option (List Char) :=
  match cs.dropWhile Text.isBlank with
  | c :: rest => if c = mark then some rest else none
  | [] => none

/-- A range as it is written: both ends and an optional step, each a run of digits. -/
structure Span where
  first : List Char
  last : List Char
  step : Option (List Char)

namespace Span

/-- Reads `first - last` or `first - last / step`. -/
def ofChars? (cs : List Char) : Option Span := do
  let (first, cs) ← digits? cs
  let cs ← mark? '-' cs
  let (last, cs) ← digits? cs
  if cs.all Text.isBlank then return ⟨first, last, none⟩
  else
    let cs ← mark? '/' cs
    let (step, cs) ← digits? cs
    if cs.all Text.isBlank then return ⟨first, last, some step⟩ else none

/-- The value of a run of digits, which may be too long to be taken. -/
def value (ds : List Char) : Except Fault Int :=
  match Numeral.integerChars? (Numeral.toAscii ds) with
  | some n => .ok n
  | none => .error .badValue

/-- The numbers from `first` to `last` in steps. -/
def count (first last step : Int) : List Int :=
  if last < first then []
  else
    (List.range ((last - first).toNat / step.toNat + 1)).map fun (i : Nat) =>
      first + step * (i : Int)

/-- The numbers of a range. A step of zero is refused. -/
def numbers (s : Span) : Except Fault (List Int) := do
  let first ← value s.first
  let last ← value s.last
  let step ← (s.step.map value).getD (.ok 1)
  if step = 0 then throw .badValue else return count first last step

end Span

/-- The quads listed one by one; blank parts do not count. -/
def listed (c : Cursor) (text : String) : Except Fault (List Int) :=
  match ((Text.splitOn ',' text).filter fun part => !Text.isAllBlank part).mapM Numeral.int? with
  | some numbers => .ok numbers
  | none => .error (.defect (.indexList text) c.element)

def spanned (c : Cursor) (text : String) : Except Fault (List Int) :=
  match Span.ofChars? text.toList with
  | some span => span.numbers
  | none => .error (.defect (.indexRange text) c.element)

/-- The quads that a face element names. -/
def quads (c : Cursor) : Except Fault (List Int) := do
  let one ← match (c.get? "index").filter (· ≠ "") with
    | some text => listed c text
    | none => pure []
  let more ← match (c.get? "range").filter (· ≠ "") with
    | some text => do pure (← (Text.splitOn ',' text).mapM (spanned c)).flatten
    | none => pure []
  let all := one ++ more
  return if all.isEmpty then [0] else all

def animator (animations : Catalog Animation) (c : Cursor) : Except Fault Animator := do
  match (c.get? "animation").filter (· ≠ "") with
  | none => throw (.defect .faceAnimation c.element)
  | some id =>
    match animations.get? id with
    | none => throw (.defect (.animationUndefined id) c.element)
    | some animation =>
      let quads ← quads c
      let offset ← c.real "offset" 0
      return Animator.setAnimation { quads, offset } animation

def animators (animations : Catalog Animation) (faces : List Cursor) :
    Except Fault (List Animator) :=
  faces.mapM (animator animations)

theorem count_of_lt {first last step : Int} (h : last < first) :
    Span.count first last step = [] := by
  simp [Span.count, h]

end FaceBinding

end Stagecraft
