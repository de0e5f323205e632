import Stagecraft.Address.Path
import Stagecraft.Fault
import Stagecraft.Settings.Json
import Stagecraft.Text.Letter

/-!
# Settings in the environment

Variables set settings by name: the case of names does not matter, and two underscores lead into a
table. A setting that is a table may also be set at once, by a JSON text; what leads into it then
counts more. The folder of the settings file is the one variable whose name is taken as it stands.
-/

namespace Stagecraft

/-- The variables that a program was started with, and the user's own folder. -/
structure Environment where
  vars : Catalog String := []
  home : FilePath := ⟨"/", []⟩

namespace Environment

/-- What the names of variables begin with. -/
def namePrefix : String := "XMLFORGE_"

/-- The variables by the lower case of their names. -/
def lowered (e : Environment) : Catalog String :=
  Catalog.putAll [] (e.vars.map fun v => (Text.toLower v.1, v.2))

def get? (e : Environment) (setting : String) : Option String :=
  e.lowered.get? (Text.toLower namePrefix ++ setting)

def configDir (e : Environment) : FilePath :=
  match (Catalog.get? e.vars (namePrefix ++ "CONFIG_DIR")).filter (· ≠ "") with
  | some folder => FilePath.ofString folder
  | none => e.home.below ".xmlforge"

/-- The pieces of a name between pairs of underscores. -/
def pieces : List Char → List (List Char)
  | [] => [[]]
  | '_' :: '_' :: cs => [] :: pieces cs
  | c :: cs =>
    match pieces cs with
    | piece :: more => (c :: piece) :: more
    | [] => [[c]]

/-- The path that a name leads along into the table of a setting. -/
def pathInto? (setting name : String) : Option (List String) :=
  let start := (Text.toLower namePrefix ++ setting ++ "__").toList
  if start.isPrefixOf name.toList then
    some ((pieces (name.toList.drop start.length)).map String.ofList)
  else none

/-- The table of a setting as far as variables lead into it. -/
def inside (e : Environment) (setting : String) : SettingLayer :=
  e.lowered.foldl (fun layer v =>
    match pathInto? setting v.1 with
    | some path => SettingTree.plant (.text v.2) path layer
    | none => layer) []

/-- The value of a setting that is a table, if it is set. -/
def table? (e : Environment) (setting : String) : Except Fault (Option SettingTree) :=
  let inner := e.inside setting
  match e.get? setting with
  | none => .ok (if inner.isEmpty then none else some (.table inner))
  | some text =>
    match SettingTree.ofJson? text with
    | none => .error .settingText
    | some .null => .ok none
    | some (.table entries) => .ok (some (.table (SettingTree.overlayEntries entries inner)))
    | some other => .ok (some other)

/-- Keys of a table that are names of settings in another case become those names. -/
def withNames (names : List String) : SettingTree → SettingTree
  | .table entries =>
    let rename (key : String) : String :=
      (names.find? fun n => Text.toLower n = Text.toLower key).getD key
    .table (Catalog.putAll [] (entries.map fun e => (rename e.1, e.2)))
  | t => t

/-- A layer of text settings under their names. -/
def texts (values : List (String × Option String)) : SettingLayer :=
  values.filterMap fun v => v.2.map fun s => (v.1, .text s)

end Environment

end Stagecraft
