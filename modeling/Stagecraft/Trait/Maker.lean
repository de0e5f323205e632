import Stagecraft.Entity.Application

/-!
# Makers of traits

What a trait element comes to: a class, single fields that are filled, and structured content. It
makes as many equal traits as are wanted, provided that the class does.
-/

namespace Stagecraft

/-- What a definition sets besides single fields. -/
inductive Customization where
  | direction (v : Vec2)
  | attackSurfaces (names : List String)
  | conditions (cs : List SpawnCondition)

/-- A definition of a trait: the class and what is set on each new trait of it. -/
structure TraitMaker where
  name : String
  base : TraitClass
  properties : Catalog Value
  customizations : List Customization

namespace TraitMaker

variable [Application]

/-- Applies structured content to a new trait. -/
def customize (t : Trait) : Customization → Except Fault Trait
  | .direction v => .ok (t.setField "direction" (.vec2 v))
  | .attackSurfaces names => .ok (t.setField "attack_accept" (.list (names.map .text)))
  | .conditions cs => cs.foldlM Trait.addCondition t

def make (m : TraitMaker) : Except Fault Trait := do
  let t ← m.base.make
  m.customizations.foldlM customize { t with fields := t.fields.putAll m.properties }

end TraitMaker

end Stagecraft
