import Stagecraft.Loading.Storage
import Stagecraft.Settings.Basic
import Stagecraft.Settings.Environment
import Stagecraft.Settings.Toml.Document

/-!
# Loading settings

Settings come from three layers: what the host gives counts more than the environment, which counts
more than the settings file. Only when all layers are one is every value given its meaning, so what
is hidden by a higher layer may be wrong.
-/

namespace Stagecraft

namespace SettingTree

/-- A numeral in a setting without the blanks around it and without underscores, of which no two
stand together and none stands at an end. -/
def numeralChars? (s : String) : Option (List Char) :=
  let cs := Numeral.trim s.toList
  let isDouble := (cs.zip (cs.drop 1)).contains ('_', '_')
  if isDouble || cs.head? = some '_' || cs.getLast? = some '_' then none
  else some (cs.filter (· ≠ '_'))

/-- A number, also from a text or a truth value. -/
def number? : SettingTree → Option Float
  | truth b => some (if b then 1 else 0)
  | integer n => Binary64.ofInt? n
  | real x => some x
  | text s => ((numeralChars? s).bind Numeral.plain?).map Decimal.toFloat
  | _ => none

def onWords : List String := ["1", "t", "true", "y", "yes", "on"]

def offWords : List String := ["0", "f", "false", "n", "no", "off"]

/-- A truth value, also from a word or from the numbers zero and one. -/
def switch? : SettingTree → Option Bool
  | truth b => some b
  | integer n => if n = 1 then some true else if n = 0 then some false else none
  | real x => if x == 1 then some true else if x == 0 then some false else none
  | text s =>
    let word := String.ofList (s.toList.map Char.toLower)
    if onWords.contains word then some true
    else if offWords.contains word then some false
    else none
  | _ => none

def text? : SettingTree → Option String
  | text s => some s
  | _ => none

end SettingTree

def meaning {α : Type} (value : Option α) : Except Fault α :=
  match value with
  | some a => .ok a
  | none => .error .invalidSettings

/-- The meaning of a value that may be left out. -/
def meaningOr {α : Type} (default : α) (read : SettingTree → Option α)
    (value : Option SettingTree) : Except Fault α :=
  match value with
  | some t => meaning (read t)
  | none => .ok default

/-- There are no settings but those with these names. -/
def checkNames (names : List String) (layer : SettingLayer) : Except Fault Unit :=
  if layer.all fun e => names.contains e.1 then .ok () else .error .invalidSettings

namespace HttpSettings

def names : List String := ["timeout", "follow_redirects"]

/-- The settings that variables of their names, with no prefix, and a layer above them say. -/
def ofLayer (e : Environment) (layer : SettingLayer) : Except Fault HttpSettings := do
  let below := Environment.texts (names.map fun n => (n, e.lowered.get? n))
  let all := SettingTree.overlayEntries below layer
  checkNames names all
  let timeout ← meaningOr 10 SettingTree.number? (all.get? "timeout")
  unless 0 < timeout do throw .invalidSettings
  let followRedirects ← meaningOr true SettingTree.switch? (all.get? "follow_redirects")
  return { timeout, followRedirects }

end HttpSettings

namespace Settings

def names : List String := ["config_dir", "base_url", "http", "scenes"]

/-- The layer that the environment says. -/
def environmentLayer (e : Environment) : Except Fault SettingLayer := do
  let http ← e.table? "http"
  let scenes ← e.table? "scenes"
  return Environment.texts [("config_dir", e.get? "config_dir"), ("base_url", e.get? "base_url")] ++
    (http.map fun t => ("http", Environment.withNames HttpSettings.names t)).toList ++
    (scenes.map (("scenes", ·))).toList

/-- The layer that the settings file says, if there is one. -/
def fileLayer (s : Storage) (path : FilePath) : Except Fault SettingLayer :=
  match s.read path with
  | .error _ => .ok []
  | .ok content =>
    match content.text? with
    | some t => Toml.ofString t
    | none => .error .configEncoding

/-- The addresses of scenes by name. -/
def scenesOf? : SettingTree → Option (Catalog String)
  | .table entries => entries.mapM fun e => e.2.text?.map (e.1, ·)
  | _ => none

/-- A text that may be left out. -/
def optionalText? : SettingTree → Option (Option String)
  | .null => some none
  | .text s => some (some s)
  | _ => none

/-- The settings that a layer says. -/
def ofLayer (e : Environment) (layer : SettingLayer) : Except Fault Settings := do
  checkNames names layer
  let http ←
    match layer.get? "http" with
    | none => HttpSettings.ofLayer e []
    | some (.table entries) => HttpSettings.ofLayer e entries
    | some _ => throw .invalidSettings
  let folder (t : SettingTree) : Option FilePath := t.text?.map FilePath.ofString
  return {
    configDir := ← meaningOr e.configDir folder (layer.get? "config_dir")
    baseUrl := ← meaningOr none optionalText? (layer.get? "base_url")
    scenes := ← meaningOr [] scenesOf? (layer.get? "scenes")
    http }

def load (e : Environment) (s : Storage) (given : SettingLayer) : Except Fault Settings := do
  let file ← fileLayer s (e.configDir.below "config.toml")
  let environment ← environmentLayer e
  ofLayer e (SettingTree.overlayEntries (SettingTree.overlayEntries file environment) given)

theorem fileLayer_of_error {s : Storage} {path : FilePath} {f : LoadFailure}
    (h : s.read path = .error f) : fileLayer s path = .ok [] := by
  simp [fileLayer, h]

end Settings

end Stagecraft
