/-!
# Element trees

A document is a tree of elements, with texts, comments and processing instructions between them.
Attributes keep the order they were written in, and an element remembers the line its start tag
ends on.
-/

namespace Stagecraft

namespace Markup

inductive Node where
  | element (tag : String) (attributes : List (String × String)) (line : Nat)
      (children : List Node)
  | text (content : String)
  | comment (content : String)
  | instruction (target content : String)

/-- An element by itself, without the place it stands at. -/
structure Element where
  tag : String
  attributes : List (String × String)
  line : Nat
  children : List Node

namespace Element

def get? (e : Element) (name : String) : Option String := e.attributes.lookup name

/-- The text in front of the first child that is not text. -/
def leadingText (e : Element) : String :=
  match e.children with
  | .text content :: _ => content
  | _ => ""

/-- The start tag as it is shown in messages: attribute values stand as they are. -/
def describe (e : Element) : String :=
  "<" ++ e.tag ++ String.join (e.attributes.map fun a => " " ++ a.1 ++ "=\"" ++ a.2 ++ "\"") ++ ">"

end Element

def Node.element? : Node → Option Element
  | .element tag attributes line children => some ⟨tag, attributes, line, children⟩
  | _ => none

/-- How many places a node takes among the elements around it. -/
def Node.width : Node → Nat
  | .element _ _ _ _ => 1
  | _ => 0

mutual

/-- All text of a node and below it, comments and instructions left out. -/
def Node.innerText : Node → String
  | .element _ _ _ children => innerText children
  | .text content => content
  | .comment _ => ""
  | .instruction _ _ => ""

/-- All text of a list of nodes and below them. -/
def innerText : List Node → String
  | [] => ""
  | node :: rest => node.innerText ++ innerText rest

end

/-- A document: its root element and the address it was loaded from. -/
structure Document where
  root : Element
  url : Option String

end Markup

end Stagecraft
