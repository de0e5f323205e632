import Stagecraft.Catalog
import Stagecraft.Fault

/-!
# Registries

What a host application provides by name. A registry holds things of one kind; resources are kept
by kind and name.
-/

namespace Stagecraft

namespace Registry

/-- The thing registered under a name. -/
def resolve {α : Type} (kind : String) (m : Catalog α) (name : String) : Except Fault α :=
  match m.get? name with
  | some a => .ok a
  | none => .error (.definition (.unregistered kind name) none)

end Registry

/-- Resources by kind and name. -/
abbrev Resources (α : Type) := Catalog (Catalog α)

namespace Resources

variable {α : Type}

def addResource (r : Resources α) (kind name : String) (a : α) : Resources α :=
  r.put kind (((r.get? kind).getD []).put name a)

def find? (r : Resources α) (kind name : String) : Option α := (r.get? kind).bind (·.get? name)

/-- The resource of a kind and name, wanted by an element. -/
def getAt (r : Resources α) (kind name : String) (place : Option Markup.Element) :
    Except Fault α :=
  match r.find? kind name with
  | some a => .ok a
  | none => .error (.definition (.resourceMissing kind name) place)

theorem find?_addResource (r : Resources α) (kind name : String) (a : α) :
    (r.addResource kind name a).find? kind name = some a := by
  simp [find?, addResource, Catalog.get?_put_self]

end Resources

end Stagecraft
