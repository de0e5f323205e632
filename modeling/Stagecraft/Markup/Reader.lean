import Stagecraft.Markup.Namespace
import Stagecraft.Markup.Node

/-!
# Reading documents

Tokens are put together into a tree with a stack of the elements still open. Texts next to each
other are one text, an end tag closes the innermost open element, and outside the one root only
blanks, comments and instructions may stand, and in front of it a document type.
-/

namespace Stagecraft

namespace Markup

/-- An element that is still open: its children so far, the last one first. It is closed by the name
that it was opened with. -/
structure OpenElement where
  name : String
  scope : Scope
  tag : String
  attributes : List (String × String)
  line : Nat
  reversed : List Node

namespace OpenElement

def push (o : OpenElement) (n : Node) : OpenElement := { o with reversed := n :: o.reversed }

/-- Text joins a text right in front of it. -/
def pushText (o : OpenElement) (content : String) : OpenElement :=
  match o.reversed with
  | .text before :: rest => { o with reversed := .text (before ++ content) :: rest }
  | _ => o.push (.text content)

def close (o : OpenElement) : Element := ⟨o.tag, o.attributes, o.line, o.reversed.reverse⟩

end OpenElement

/-- What has been read: the open elements, innermost first, the root once it is closed, and whether
there was a document type. -/
structure Reading where
  stack : List OpenElement := []
  root? : Option Element := none
  typed : Bool := false

namespace Reading

/-- A node for the innermost open element. -/
def add (r : Reading) (n : Node) : Reading :=
  match r.stack with
  | o :: rest => { r with stack := o.push n :: rest }
  | [] => r

/-- A closed element goes to the one around it, or becomes the root. -/
def finish? (r : Reading) (e : Element) : Option Reading :=
  match r.stack, r.root? with
  | o :: rest, _ =>
    some { r with stack := o.push (.element e.tag e.attributes e.line e.children) :: rest }
  | [], none => some { r with root? := some e }
  | [], some _ => none

/-- What prefixes stand for where the next element comes. -/
def scope (r : Reading) : Scope := (r.stack.head?.map (·.scope)).getD Scope.outermost

/-- The element that a start tag opens. -/
def opened? (r : Reading) (name : String) (attributes : List (String × String)) (line : Nat) :
    Option OpenElement := do
  let scope ← r.scope.enter? attributes
  return ⟨name, scope, ← scope.tag? name, ← scope.attributes? attributes, line, []⟩

def step? (r : Reading) : Token → Option Reading
  | .opening name attributes line closed =>
    if r.stack.isEmpty && r.root?.isSome then none
    else do
      let o ← r.opened? name attributes line
      if closed then r.finish? o.close else some { r with stack := o :: r.stack }
  | .closing name =>
    match r.stack with
    | o :: rest => if o.name = name then finish? { r with stack := rest } o.close else none
    | [] => none
  | .text content =>
    match r.stack with
    | o :: rest => some { r with stack := o.pushText content :: rest }
    | [] => if content.toList.all Token.isSpace then some r else none
  | .literal content =>
    match r.stack with
    | o :: rest => some { r with stack := o.pushText content :: rest }
    | [] => none
  | .comment content => some (r.add (.comment content))
  | .instruction target content => some (r.add (.instruction target content))
  | .doctype =>
    if r.stack.isEmpty && r.root?.isNone && !r.typed then some { r with typed := true } else none

end Reading

/-- The root element that a list of tokens spells. -/
def ofTokens? (tokens : List Token) : Option Element := do
  let r ← tokens.foldlM Reading.step? {}
  if r.stack.isEmpty then r.root? else none

/-- The root element of a well-formed text. -/
def parse? (s : String) : Option Element :=
  let cs := s.toList
  let cs := if cs.head? = some (Char.ofNat 0xfeff) then cs.tail else cs
  (Token.ofChars? cs).bind ofTokens?

end Markup

end Stagecraft
