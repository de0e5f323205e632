import Stagecraft.Catalog
import Stagecraft.Trait.Kind

/-!
# Traits

A trait is an independent capability of an entity: a class, and a record of fields that documents
may fill. Classes are built in or registered by the host application. What is registered is code
that is not ours; here it is only known by its name (`Foreign`), and what it does is said in
`Stagecraft.Entity.Application`.
-/

namespace Stagecraft

/-- Something that the host application registers. Different things may have the same name. -/
structure Foreign where
  name : String
  number : Nat := 0
  deriving Repr, DecidableEq

/-- What new entities are made by: the plain class, something that is registered, or something that
is no class at all and cannot be called. -/
inductive EntityClass where
  | plain
  | registered (f : Foreign)
  | uncallable
  deriving Repr, DecidableEq

namespace EntityClass

def name : EntityClass → String
  | plain => "Entity"
  | registered f => f.name
  | uncallable => "CompiledEntry"

end EntityClass

inductive TraitClass where
  | builtIn (kind : TraitKind)
  | registered (f : Foreign) (label : String)

namespace TraitClass

def className : TraitClass → String
  | builtIn kind => kind.className
  | registered f _ => f.name

def label : TraitClass → String
  | builtIn kind => kind.label
  | registered _ label => label

end TraitClass

/-- All fields of a fresh trait; every trait can be switched off. -/
def TraitKind.freshFields (kind : TraitKind) : Catalog Value :=
  ("enabled", .truth true) :: kind.fields

/-- Something to bring into the world whenever an event of the host fires. -/
structure SpawnCondition where
  event : String
  constructor : EntityClass
  offset : Vec3

/-- A trait. A spawning trait also has a list of conditions. The entity that it is attached to is
known by its number. -/
structure Trait where
  kind : TraitClass
  fields : Catalog Value
  conditions : List SpawnCondition := []
  host : Option Nat := none

namespace Trait

/-- A fresh trait of a kind that needs no registration. -/
def new (kind : TraitKind) : Trait := { kind := .builtIn kind, fields := kind.freshFields }

def label (t : Trait) : String := t.kind.label

def hostedBy (t : Trait) (n : Nat) : Trait := { t with host := some n }

/-- The trait when an entity has got another number. -/
def moved (t : Trait) (old new : Nat) : Trait :=
  { t with host := t.host.map fun n => if n = old then new else n }

def field (t : Trait) (name : String) : Value := (t.fields.get? name).getD .null

def setField (t : Trait) (name : String) (v : Value) : Trait :=
  { t with fields := t.fields.put name v }

/-- Does the trait take part in the passing of time? -/
def isEnabled (t : Trait) : Bool := (t.field "enabled").isTrue

def isKind (t : Trait) (kind : TraitKind) : Bool :=
  match t.kind with
  | .builtIn k => k = kind
  | .registered _ _ => false

/-- Does the trait have a list of conditions? -/
def spawns (t : Trait) : Bool := t.isKind .spawn

/-- The velocity that a moving trait gives its host. -/
def velocity? (t : Trait) : Option Vec2 :=
  match t.kind, t.field "velocity" with
  | .builtIn .translate, .vec2 v => some v
  | _, _ => none

/-- A field that counts the time. -/
def countTime (t : Trait) (dt : Elapsed) : Except Fault Trait :=
  (Value.addElapsed (t.field "time") dt).map (t.setField "time" ·)

/-- The fields after some time. -/
def elapse (t : Trait) (dt : Elapsed) : Except Fault Trait :=
  match t.kind with
  | .builtIn .disappearing => t.countTime dt
  | .builtIn .lifetime => t.countTime dt
  | .builtIn .rotate => do
    let turn ← Value.times (t.field "speed") dt
    return t.setField "angle" (← Value.add (t.field "angle") turn)
  | _ => .ok t

/-- Where a trait moves its host in some time. Without a host there is nothing to move. -/
def carry (t : Trait) (dt : Elapsed) (position : Vec3) : Vec3 :=
  match t.host, t.velocity? with
  | some _, some v => ⟨position.x + v.x * dt.toFloat, position.y + v.y * dt.toFloat, position.z⟩
  | _, _ => position

/-- Is a disappearing host visible? It is for the first part of each cycle, and always when there
is no cycle. -/
def visible (t : Trait) : Except Fault Bool := do
  let cycle ← Value.add (t.field "on_duration") (t.field "off_duration")
  match cycle.number? with
  | none => throw .typeMismatch
  | some cycle =>
    if cycle ≤ 0 then return true
    let time ← Value.add (t.field "time") (t.field "offset")
    match time.number?, (t.field "on_duration").number? with
    | some time, some on => return Binary64.modulo time cycle < on
    | _, _ => throw .typeMismatch

theorem label_new (kind : TraitKind) : (new kind).label = kind.label := rfl

theorem isEnabled_new (kind : TraitKind) : (new kind).isEnabled = true := by
  simp [new, isEnabled, field, TraitKind.freshFields, Catalog.get?, Value.isTrue]

end Trait

end Stagecraft
