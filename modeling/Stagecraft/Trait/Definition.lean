import Stagecraft.Registrations

/-!
# Trait definitions

A trait element names a class and fills fields of its traits: each attribute goes to the field of
the same name, hyphens read as underscores, if a fresh trait has a single value there. Doors, solids
and spawners also read structured content.
-/

namespace Stagecraft

open Markup

namespace TraitMaker

/-- Is the text a decimal numeral, with blanks around it? -/
def isNumeral (s : String) : Bool :=
  let (_, cs) := Numeral.takeSign (s.toList.dropWhile Text.isBlank)
  let whole := cs.takeWhile Text.isDecimal
  let (fraction, rest) :=
    match cs.dropWhile Text.isDecimal with
    | '.' :: rest => (rest.takeWhile Text.isDecimal, rest.dropWhile Text.isDecimal)
    | rest => ([], rest)
  let rest :=
    match rest with
    | c :: more =>
      let (_, ds) := Numeral.takeSign more
      if (c = 'e' || c = 'E') && (ds.head?.map Text.isDecimal).getD false then
        ds.dropWhile Text.isDecimal
      else rest
    | [] => rest
  !(whole.isEmpty && fraction.isEmpty) && rest.all Text.isBlank

/-- The value that an attribute text writes: a truth value, a number or the text itself. -/
def parseValue (s : String) : Except Fault Value :=
  if s = "true" then .ok (.truth true)
  else if s = "false" then .ok (.truth false)
  else if isNumeral s then
    match Numeral.float? s with
    | some x => .ok (.real x)
    | none => .error .badValue
  else .ok (.text s)

/-- The field that an attribute is meant for. -/
def fieldName (name : String) : String :=
  String.ofList (name.toList.map fun c => if c = '-' then '_' else c)

/-- Attributes that say which trait is meant. -/
def reserved : List String := ["name", "source"]

/-- May a field of a fresh trait be filled by an attribute? -/
def isSettable (template : Trait) (field : String) : Bool :=
  field.toList.head? ≠ some '_' && field ≠ "host" &&
    ((template.fields.get? field).map Value.isSettable).getD false

/-- The fields that attributes fill; of two attributes for one field the later counts. -/
def propertiesOf (template : Trait) (attributes : List (String × String)) :
    Except Fault (Catalog Value) :=
  attributes.foldlM (fun found a =>
    let field := fieldName a.1
    if reserved.contains a.1 || !isSettable template field then .ok found
    else (parseValue a.2).map (found.put field ·)) []

def resolve (host : Option Registrations) (name : String) (c : Cursor) : Except Fault TraitClass :=
  match host.bind (·.traits.get? name) with
  | some trait => .ok trait
  | none =>
    match TraitKind.ofName? name with
    | some kind => .ok (.builtIn kind)
    | none => .error (.defect (.traitUndefined name) c.element)

/-- A door's way out. -/
def door (c : Cursor) : Except Fault (List Customization) :=
  match (c.childrenTagged "direction").head? with
  | none => .ok []
  | some d => return [.direction ((← d.vec2? "x" "y").getD {})]

/-- The sides of a solid that take attacks. -/
def solid (c : Cursor) : Except Fault (List Customization) :=
  match c.get? "attack" with
  | none => .ok []
  | some attack =>
    let names := Text.words attack
    let unknown := names.filter fun name => !surfaces.contains name
    if unknown.isEmpty then .ok [.attackSurfaces names]
    else .error (.defect (.surfaces unknown) c.element)

/-- One item of a spawner: an event, a registered object and where to put it. -/
def spawnItem (host : Registrations) (item : Cursor) : Except Fault SpawnCondition := do
  match (item.get? "event").filter (· ≠ ""), (item.get? "object").filter (· ≠ "") with
  | some event, some object =>
    let found ← host.object object item.element
    let offset ←
      match (item.childrenTagged "offset").head? with
      | none => pure {}
      | some o => do pure ((← o.position?).getD {})
    return ⟨event, found.asClass, offset⟩
  | _, _ => throw (.defect .spawnItem item.element)

def spawn (host : Option Registrations) (c : Cursor) : Except Fault (List Customization) :=
  match host with
  | none => .error (.needsLoader "TraitCompiler")
  | some host => return [.conditions (← (c.childrenTagged "item").mapM (spawnItem host))]

/-- The structured content that traits of a name read. -/
def structured (host : Option Registrations) (name : String) (c : Cursor) :
    Except Fault (List Customization) :=
  match fieldName name with
  | "door" => door c
  | "solid" => solid c
  | "spawn" => spawn host c
  | _ => .ok []

def nameOf (c : Cursor) : Option String :=
  ((c.get? "name").filter (· ≠ "")).or ((c.get? "source").filter (· ≠ ""))

variable [Application]

def ofElement (host : Option Registrations) (c : Cursor) : Except Fault TraitMaker := do
  c.ensure ["trait"]
  match nameOf c with
  | none => throw (.defect .traitName c.element)
  | some name =>
    let base ← resolve host name c
    let template ← base.make
    let properties ← propertiesOf template c.element.attributes
    let customizations ← structured host name c
    return { name, base, properties, customizations }

/-- The definitions of all trait elements directly inside an element. -/
def allOf (host : Option Registrations) (c : Cursor) : Except Fault (List TraitMaker) :=
  (c.childrenTagged "trait").mapM (ofElement host)

end TraitMaker

end Stagecraft
