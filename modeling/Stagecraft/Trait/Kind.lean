import Stagecraft.Trait.Value

/-!
# Built-in traits

The kinds of traits that every stage knows: the name documents use, the name of the class, the name
the trait is looked up by, and the fields a fresh trait has. Which of them change as time passes is
said in `Stagecraft.Trait.Basic`.
-/

namespace Stagecraft

/-- A kind of trait that needs no registration. -/
inductive TraitKind where
  | attach
  | climbable
  | climber
  | contactDamage
  | conveyor
  | deathSpawn
  | deathZone
  | destructible
  | disappearing
  | door
  | elevator
  | environment
  | fallaway
  | fixedForce
  | glow
  | headlight
  | health
  | invincibility
  | jump
  | lifetime
  | light
  | lightControl
  | move
  | physics
  | pickupable
  | projectile
  | rotate
  | solid
  | spawn
  | stun
  | teleport
  | translate
  | translating
  | weapon
  deriving DecidableEq, Repr

def surfaces : List String := ["top", "bottom", "left", "right"]

namespace TraitKind

/-- Every kind, by the name that documents use. -/
def all : List (String × TraitKind) :=
  [("attach", attach), ("climbable", climbable), ("climber", climber),
   ("contact-damage", contactDamage), ("conveyor", conveyor), ("death-spawn", deathSpawn),
   ("death-zone", deathZone), ("destructible", destructible), ("disappearing", disappearing),
   ("door", door), ("elevator", elevator), ("environment", environment), ("fallaway", fallaway),
   ("fixed-force", fixedForce), ("glow", glow), ("headlight", headlight), ("health", health),
   ("invincibility", invincibility), ("jump", jump), ("lifetime", lifetime), ("light", light),
   ("light-control", lightControl), ("move", move), ("physics", physics),
   ("pickupable", pickupable), ("projectile", projectile), ("rotate", rotate), ("solid", solid),
   ("spawn", spawn), ("stun", stun), ("teleport", teleport), ("translate", translate),
   ("translating", translating), ("weapon", weapon)]

/-- The kind that a document names. -/
def ofName? (name : String) : Option TraitKind := all.lookup name

def className : TraitKind → String
  | attach => "Attach"
  | climbable => "Climbable"
  | climber => "Climber"
  | contactDamage => "ContactDamage"
  | conveyor => "Conveyor"
  | deathSpawn => "DeathSpawn"
  | deathZone => "DeathZone"
  | destructible => "Destructible"
  | disappearing => "Disappearing"
  | door => "Door"
  | elevator => "Elevator"
  | environment => "Environment"
  | fallaway => "Fallaway"
  | fixedForce => "FixedForce"
  | glow => "Glow"
  | headlight => "Headlight"
  | health => "Health"
  | invincibility => "Invincibility"
  | jump => "Jump"
  | lifetime => "Lifetime"
  | light => "Light"
  | lightControl => "LightControl"
  | move => "Move"
  | physics => "Physics"
  | pickupable => "Pickupable"
  | projectile => "Projectile"
  | rotate => "Rotate"
  | solid => "Solid"
  | spawn => "Spawn"
  | stun => "Stun"
  | teleport => "Teleport"
  | translate => "Translate"
  | translating => "Translating"
  | weapon => "Weapon"

/-- The name that a trait is looked up by on its host. -/
def label : TraitKind → String
  | attach => "attach"
  | climbable => "climbable"
  | climber => "climber"
  | contactDamage => "contact_damage"
  | conveyor => "conveyor"
  | deathSpawn => "death_spawn"
  | deathZone => "death_zone"
  | destructible => "destructible"
  | disappearing => "disappearing"
  | door => "door"
  | elevator => "elevator"
  | environment => "environment"
  | fallaway => "fallaway"
  | fixedForce => "fixed_force"
  | glow => "glow"
  | headlight => "headlight"
  | health => "health"
  | invincibility => "invincibility"
  | jump => "jump"
  | lifetime => "lifetime"
  | light => "light"
  | lightControl => "light_control"
  | move => "move"
  | physics => "physics"
  | pickupable => "pickupable"
  | projectile => "projectile"
  | rotate => "rotate"
  | solid => "solid"
  | spawn => "spawn"
  | stun => "stun"
  | teleport => "teleport"
  | translate => "translate"
  | translating => "translating"
  | weapon => "weapon"

open Value in
/-- The fields of a fresh trait, apart from those that every trait has. -/
def fields : TraitKind → List (String × Value)
  | attach => [("attached", list []), ("offset", vec3 {})]
  | climbable => []
  | climber => [("speed", real 60), ("attached", null)]
  | contactDamage => [("points", real 1)]
  | conveyor => [("speed", real 40), ("direction", vec2 ⟨1, 0⟩)]
  | deathSpawn => [("chance", real 1), ("pool", list [])]
  | deathZone => []
  | destructible => [("affectors", list [])]
  | disappearing =>
    [("on_duration", real 2), ("off_duration", real 2), ("offset", real 0), ("time", real 0)]
  | door => [("direction", vec2 ⟨0, 0⟩), ("one_way", truth false), ("speed", real 30)]
  | elevator => [("speed", real 20), ("nodes", list [])]
  | environment => [("atmosphere", real 1)]
  | fallaway => [("delay", real 0.5)]
  | fixedForce => [("force", vec2 {})]
  | glow => [("intensity", real 1), ("radius", real 16)]
  | headlight => [("intensity", real 1), ("distance", real 300)]
  | health =>
    [("max", real 100), ("amount", real 1), ("immune", truth false), ("infinite", truth false)]
  | invincibility => [("duration", real 0.5), ("engaged", truth false)]
  | jump => [("force", real 100), ("duration", real 0.18)]
  | lifetime => [("duration", real Binary64.infinity), ("time", real 0)]
  | light => [("intensity", real 1), ("distance", real 0)]
  | lightControl => [("intensity", real 1), ("duration", real 1)]
  | move => [("speed", real 90), ("acceleration", real 500)]
  | physics => [("mass", real 0), ("area", real 0.04), ("drag", real 0), ("velocity", vec2 {})]
  | pickupable => [("properties", record [])]
  | projectile => [("damage", real 1), ("speed", real 240), ("penetrates", truth false)]
  | rotate => [("speed", real 1), ("angle", real 0)]
  | solid =>
    [("fixed", truth false), ("obstructs", truth false),
      ("attack_accept", list (surfaces.map text))]
  | spawn => []
  | stun => [("duration", real 0.5), ("force", real 100), ("engaged", truth false)]
  | teleport => [("duration", real 0.5), ("destination", vec3 {})]
  | translate => [("velocity", vec2 {})]
  | translating => [("amplitude", vec2 {}), ("speed", real 1)]
  | weapon => [("fire_rate", real 4), ("aim", vec2 ⟨1, 0⟩)]

end TraitKind

end Stagecraft
