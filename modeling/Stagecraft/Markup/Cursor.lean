import Stagecraft.Markup.Node

/-!
# Places in a document

A cursor is an element together with its ancestors, nearest first, so that it can be followed
upwards. Its address counts, from the root down, the element siblings in front; two cursors into
one document are the same place exactly when their addresses agree. `descendants` lists the places
below a cursor in document order.
-/

namespace Stagecraft

namespace Markup

structure Cursor where
  element : Element
  above : List Element
  address : List Nat
  url : Option String

namespace Cursor

def ofDocument (d : Document) : Cursor := ⟨d.root, [], [], d.url⟩

def tag (c : Cursor) : String := c.element.tag

def line (c : Cursor) : Nat := c.element.line

def get? (c : Cursor) (name : String) : Option String := c.element.get? name

def parent? (c : Cursor) : Option Cursor :=
  match c.above with
  | [] => none
  | e :: above => some ⟨e, above, c.address.dropLast, c.url⟩

def lineage (c : Cursor) : List Element := c.element :: c.above

/-- Cursors for the elements among sibling nodes, of which `index` elements came before. -/
def siblings (url : Option String) (above : List Element) (address : List Nat) :
    Nat → List Node → List Cursor
  | _, [] => []
  | index, node :: rest =>
    match node.element? with
    | some e => ⟨e, above, address ++ [index], url⟩ :: siblings url above address (index + 1) rest
    | none => siblings url above address index rest

def children (c : Cursor) : List Cursor :=
  siblings c.url (c.element :: c.above) c.address 0 c.element.children

mutual

/-- Cursors for the element that a node is and those below it, in document order. -/
def subtreeOf (url : Option String) (above : List Element) (address : List Nat) (index : Nat) :
    Node → List Cursor
  | .element tag attributes line kids =>
    ⟨⟨tag, attributes, line, kids⟩, above, address ++ [index], url⟩ ::
      subtree url (⟨tag, attributes, line, kids⟩ :: above) (address ++ [index]) 0 kids
  | .text _ => []
  | .comment _ => []
  | .instruction _ _ => []

/-- Cursors for the elements among sibling nodes and below them, in document order. -/
def subtree (url : Option String) (above : List Element) (address : List Nat) (index : Nat) :
    List Node → List Cursor
  | [] => []
  | node :: rest =>
    subtreeOf url above address index node ++
      subtree url above address (index + node.width) rest

end

def descendants (c : Cursor) : List Cursor :=
  subtree c.url (c.element :: c.above) c.address 0 c.element.children

def child? (c : Cursor) (index : Nat) : Option Cursor := c.children[index]?

/-- The element at an address below this one. -/
def follow? (c : Cursor) : List Nat → Option Cursor
  | [] => some c
  | index :: address => (c.child? index).bind (follow? · address)

end Cursor

end Markup

end Stagecraft
