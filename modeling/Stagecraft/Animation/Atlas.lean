import Stagecraft.Animation.Timeline
import Stagecraft.Catalog
import Stagecraft.Fault
import Stagecraft.Geometry.Vector

/-!
# Textures and the atlas of a document

An atlas holds the textures and the animations of one document. Whatever names none of them means
the default: the one that asks to be it, or else the first.
-/

namespace Stagecraft

/-- A picture. The serial number tells pictures apart; of some the size is not shown. -/
structure Picture where
  serial : Nat
  size : Option Vec2

/-- A picture with a name and the size its coordinates are measured in. -/
structure Texture where
  id : String
  picture : Option Picture
  size : Option Vec2

/-- The textures and animations of a document. -/
structure Atlas where
  textures : Catalog Texture := []
  animations : Catalog Animation := []

namespace Atlas

def ofTextures (ts : List Texture) : Catalog Texture := Catalog.byKey (·.id) ts

/-- The key of an animation: its id, if it has one. -/
def animationKey (a : Animation) : String := (a.id.filter (· ≠ "")).getD Catalog.defaultKey

def ofAnimations (as : List Animation) : Catalog Animation := Catalog.byKey animationKey as

/-- The texture with an id, or the default one if none is named, wanted by an element. -/
def texture (a : Atlas) (id : Option String) (place : Option Markup.Element) :
    Except Fault Texture :=
  match id.filter (· ≠ "") with
  | some id =>
    match a.textures.get? id with
    | some t => .ok t
    | none => .error (.definition (.textureUndefined id) place)
  | none =>
    match a.textures.get? Catalog.defaultKey with
    | some t => .ok t
    | none => .error (.definition .defaultTextureUndefined place)

/-- The animation that is meant when none is named. -/
def defaultAnimation? (a : Atlas) : Option Animation := a.animations.get? Catalog.defaultKey

end Atlas

end Stagecraft
