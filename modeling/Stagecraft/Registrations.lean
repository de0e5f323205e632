import Stagecraft.Entity.Blueprint
import Stagecraft.Registry

/-!
# What the host application registers

Classes of entities and traits, routers that choose animations, and resources: prebuilt objects and
fonts.
-/

namespace Stagecraft

/-- An object that is registered: something that makes entities, or an entry of a compiled pool. -/
inductive Prebuilt where
  | maker (c : EntityClass)
  | entry (e : Entry)

/-- What is called when nobody looks whether it is an entry. Entries cannot be called. -/
def Prebuilt.asClass : Prebuilt → EntityClass
  | maker c => c
  | entry _ => .uncallable

inductive Resource where
  | object (o : Prebuilt)
  | font (f : Foreign)

structure Registrations where
  traits : Catalog TraitClass := []
  entities : Catalog EntityClass := []
  routers : Catalog NamedRouter := []
  resources : Resources Resource := []

namespace Registrations

def object? (r : Registrations) (name : String) : Option Prebuilt :=
  match r.resources.find? "object" name with
  | some (.object o) => some o
  | _ => none

/-- A prebuilt object, wanted by an element. -/
def object (r : Registrations) (name : String) (place : Markup.Element) : Except Fault Prebuilt :=
  match r.object? name with
  | some o => .ok o
  | none => .error (.defect (.resourceMissing "object" name) place)

/-- A font, wanted by an element. -/
def font (r : Registrations) (name : String) (place : Markup.Element) : Except Fault Foreign :=
  match r.resources.find? "font" name with
  | some (.font f) => .ok f
  | _ => .error (.defect (.resourceMissing "font" name) place)

end Registrations

end Stagecraft
