import Stagecraft.Markup.Token

/-!
# Namespaces

A name may have a prefix, which stands for an address that some element around it gives. Names are
resolved with the address in braces in front; the attributes that give addresses are no attributes
of the element.
-/

namespace Stagecraft

namespace Markup

/-- What prefixes stand for, the innermost first. Names without a prefix go by the empty one. -/
abbrev Scope := List (String × String)

namespace Scope

/-- What the prefix of every document stands for. -/
def outermost : Scope := [("xml", "http://www.w3.org/XML/1998/namespace")]

/-- The prefix of a name and the rest of it. A name has one colon at most, and something on each
side of it. -/
def split? (name : String) : Option (String × String) :=
  match name.toList.dropWhile (· ≠ ':') with
  | [] => some ("", name)
  | _ :: rest =>
    let front := name.toList.takeWhile (· ≠ ':')
    if front.isEmpty || rest.contains ':' || !(rest.head?.map Token.startsName).getD false then none
    else some (String.ofList front, String.ofList rest)

/-- The prefix that an attribute gives an address to. -/
def declared? (name : String) : Option String :=
  if name = "xmlns" then some ""
  else
    match split? name with
    | some ("xmlns", rest) => some rest
    | _ => none

/-- What prefixes stand for inside an element with some attributes. Only without a prefix there may
be no address. -/
def enter? (s : Scope) (attributes : List (String × String)) : Option Scope :=
  let given := attributes.filterMap fun a => (declared? a.1).map (·, a.2)
  if given.any fun g => g.1 = "xmlns" || g.1 = "xml" || (g.1 ≠ "" && g.2 = "") then none
  else some (given ++ s)

/-- A name with the address of its prefix in front. -/
def inAddress (address name : String) : String :=
  if address.isEmpty then name else "\x7b" ++ address ++ "\x7d" ++ name

/-- The tag of an element. -/
def tag? (s : Scope) (name : String) : Option String := do
  let (front, rest) ← split? name
  if front = "" then return inAddress ((s.lookup "").getD "") rest
  else return inAddress (← s.lookup front) rest

/-- The name of an attribute. Without a prefix it is in no namespace. -/
def attribute? (s : Scope) (a : String × String) : Option (String × String) := do
  let (front, rest) ← split? a.1
  if front = "" then return a else return (inAddress (← s.lookup front) rest, a.2)

/-- The attributes of an element, no two of which may have one name. -/
def attributes? (s : Scope) (attributes : List (String × String)) :
    Option (List (String × String)) := do
  let found ← (attributes.filter fun a => (declared? a.1).isNone).mapM s.attribute?
  if (found.map (·.1)).Nodup then return found else none

end Scope

end Markup

end Stagecraft
