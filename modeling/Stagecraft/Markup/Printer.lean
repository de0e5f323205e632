import Stagecraft.Markup.Node

/-!
# Markup text

The text of an element: text and attribute values are escaped, an element without child nodes is
written as an empty tag.
-/

namespace Stagecraft

namespace Markup

def escapeText (c : Char) : String :=
  if c = '&' then "&amp;"
  else if c = '<' then "&lt;"
  else if c = '>' then "&gt;"
  else if c = '\r' then "&#13;"
  else String.singleton c

def escapeAttribute (c : Char) : String :=
  if c = '"' then "&quot;"
  else if c = '\t' then "&#9;"
  else if c = '\n' then "&#10;"
  else escapeText c

/-- An attribute with the blank in front of it. -/
def attributeText (a : String × String) : String :=
  " " ++ a.1 ++ "=\"" ++ String.join (a.2.toList.map escapeAttribute) ++ "\""

mutual

def Node.toText : Node → String
  | .element tag attributes _ children =>
    let opening := "<" ++ tag ++ String.join (attributes.map attributeText)
    if children.isEmpty then opening ++ "/>"
    else opening ++ ">" ++ nodesText children ++ "</" ++ tag ++ ">"
  | .text content => String.join (content.toList.map escapeText)
  | .comment content => "<!--" ++ content ++ "-->"
  | .instruction target content =>
    "<?" ++ target ++ (if content.isEmpty then "" else " " ++ content) ++ "?>"

def nodesText : List Node → String
  | [] => ""
  | node :: rest => node.toText ++ nodesText rest

end

def Element.toText (e : Element) : String :=
  (Node.element e.tag e.attributes e.line e.children).toText

end Markup

end Stagecraft
