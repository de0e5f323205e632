import Stagecraft.Catalog

/-!
# Setting trees

What a settings file or a variable says before it is given a meaning. Settings come in layers, and
`overlay` lays one over another: tables are joined key by key, and everything else gives way to what
lies above it.
-/

namespace Stagecraft

/-- A value in a layer of settings. Some values that can be written, such as moments, are of no use
to any setting and are kept as they were written. -/
inductive SettingTree where
  | null
  | truth (b : Bool)
  | integer (n : Int)
  | real (x : Float)
  | text (s : String)
  | foreign (source : String)
  | list (items : List SettingTree)
  | table (entries : List (String × SettingTree))
  deriving Inhabited

/-- A layer of settings by key. -/
abbrev SettingLayer := Catalog SettingTree

namespace SettingTree

mutual

/-- A value laid over another. -/
def overlay (below : SettingTree) : SettingTree → SettingTree
  | .table entries =>
    match below with
    | .table known => .table (overlayEntries known entries)
    | _ => .table entries
  | above => above

/-- Entries laid over those of another table. -/
def overlayEntries (known : SettingLayer) : List (String × SettingTree) → SettingLayer
  | [] => known
  | (key, above) :: entries =>
    let value :=
      match Catalog.get? known key with
      | some below => overlay below above
      | none => above
    overlayEntries (Catalog.put known key value) entries

end

/-- Puts a value at the end of a path of keys. What is not a table stays as it is. -/
def plant (value : SettingTree) : List String → SettingLayer → SettingLayer
  | [], layer => layer
  | [key], layer => layer.put key value
  | key :: keys, layer =>
    match layer.get? key with
    | none => layer.put key (.table (plant value keys []))
    | some (.table entries) => layer.put key (.table (plant value keys entries))
    | some _ => layer

@[simp] theorem overlayEntries_nil (known : SettingLayer) : overlayEntries known [] = known := by
  simp [overlayEntries]

theorem get?_plant_singleton (value : SettingTree) (key : String) (layer : SettingLayer) :
    Catalog.get? (plant value [key] layer) key = some value := by
  simp [plant, Catalog.get?_put_self]

end SettingTree

end Stagecraft
