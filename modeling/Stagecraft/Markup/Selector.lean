import Stagecraft.Markup.Cursor
import Stagecraft.Text.Blank

/-!
# Selectors

A selector is a choice between chains of tags, written with commas between the alternatives and
with `>` between a tag and the tag of its child. The last tag of a chain is that of the element
itself, the one before that of its parent, and so on; `*` stands for any tag.
-/

namespace Stagecraft

namespace Markup

/-- Alternatives, each a chain of tags with the outermost first. -/
abbrev Selector := List (List String)

namespace Selector

/-- The selector that a text writes. Blanks around tags do not count. -/
def ofString (s : String) : Selector :=
  (Text.splitOn ',' s).map fun alternative => (Text.splitOn '>' alternative).map Text.strip

/-- Does a tag in a selector stand for this element? -/
def tagMatches (pattern : String) (e : Element) : Bool := pattern = "*" || e.tag = pattern

/-- Do the tags, innermost first, stand for an element and the nearest of its ancestors? -/
def lineageMatches : List String → List Element → Bool
  | [], _ => true
  | _ :: _, [] => false
  | pattern :: patterns, e :: es => tagMatches pattern e && lineageMatches patterns es

end Selector

namespace Cursor

def matchesSelector (c : Cursor) (s : Selector) : Bool :=
  s.any fun chain => Selector.lineageMatches chain.reverse c.lineage

def select (c : Cursor) (s : Selector) : List Cursor := c.children.filter (·.matchesSelector s)

def childrenTagged (c : Cursor) (tag : String) : List Cursor :=
  c.children.filter (·.tag = tag)

/-- The elements below that match, in document order. -/
def find (c : Cursor) (s : Selector) : List Cursor := c.descendants.filter (·.matchesSelector s)

def first? (c : Cursor) (s : Selector) : Option Cursor := c.descendants.find? (·.matchesSelector s)

/-- The nearest among an element and its ancestors that matches. The ancestors are given as the
lineage that is left to climb. -/
def climb? (s : Selector) (url : Option String) : List Element → List Nat → Option Cursor
  | [], _ => none
  | e :: above, address =>
    let here : Cursor := ⟨e, above, address, url⟩
    if here.matchesSelector s then some here else climb? s url above address.dropLast

/-- The nearest among the element and its ancestors that matches. -/
def closest? (c : Cursor) (s : Selector) : Option Cursor := climb? s c.url c.lineage c.address

theorem first?_eq_head? (c : Cursor) (s : Selector) : c.first? s = (c.find s).head? := by
  simp [first?, find]

end Cursor

end Markup

end Stagecraft
