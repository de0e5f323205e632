import Stagecraft.Fault
import Stagecraft.Settings.Tree

/-!
# Tables of settings files

While a settings file is read, a table knows the section that named it, in its head or by a key with
dots. Other sections may pass through a named table to name tables inside it, but they neither name
it again nor add to it by a key with dots. A value that has been written is not touched again.
-/

namespace Stagecraft

namespace Toml

/-- What a key leads to: a value, a table with the section that named it, or tables in a row, of
which the last can still be filled. -/
inductive Draft where
  | value (v : SettingTree)
  | table (named : Option Nat) (entries : List (String × Draft))
  | rows (finished : List SettingTree) (entries : List (String × Draft))

namespace Draft

mutual

/-- The value that a finished draft is. -/
def tree : Draft → SettingTree
  | value v => v
  | table _ entries => .table (layer entries)
  | rows finished entries => .list (finished ++ [.table (layer entries)])

/-- The values that finished drafts are, by key. -/
def layer : List (String × Draft) → SettingLayer
  | [] => []
  | (key, d) :: entries => (key, tree d) :: layer entries

end

/-- Changes the table at a path, which is made where it is missing. -/
def within (change : Catalog Draft → Except Fault (Catalog Draft)) :
    List String → Catalog Draft → Except Fault (Catalog Draft)
  | [], entries => change entries
  | key :: keys, entries =>
    match entries.get? key with
    | none => do return entries.put key (.table none (← within change keys []))
    | some (table named inner) => do
      return entries.put key (.table named (← within change keys inner))
    | some (rows finished inner) => do
      return entries.put key (.rows finished (← within change keys inner))
    | some (value _) => .error .configText

/-- Names a table in the head of a section. -/
def openTable (sectionNumber : Nat) (key : String) (entries : Catalog Draft) :
    Except Fault (Catalog Draft) :=
  match entries.get? key with
  | none => .ok (entries.put key (.table (some sectionNumber) []))
  | some (table none inner) => .ok (entries.put key (.table (some sectionNumber) inner))
  | some _ => .error .configText

/-- Begins another table in a row. -/
def openRow (key : String) (entries : Catalog Draft) : Except Fault (Catalog Draft) :=
  match entries.get? key with
  | none => .ok (entries.put key (.rows [] []))
  | some (rows finished last) =>
    .ok (entries.put key (.rows (finished ++ [.table (layer last)]) []))
  | some _ => .error .configText

/-- Gives a key of a section its value. All but the last part of the key name tables. -/
def assign (sectionNumber : Nat) (v : SettingTree) :
    List String → Catalog Draft → Except Fault (Catalog Draft)
  | [], _ => .error .configText
  | [key], entries =>
    if entries.has key then .error .configText else .ok (entries.put key (.value v))
  | key :: keys, entries => do
    let inner ←
      match entries.get? key with
      | none => pure []
      | some (table named inner) =>
        if named.all (· = sectionNumber) then pure inner else throw .configText
      | some _ => throw .configText
    return entries.put key (.table (some sectionNumber) (← assign sectionNumber v keys inner))

theorem assign_of_has {sectionNumber : Nat} {v : SettingTree} {key : String}
    {entries : Catalog Draft} (h : entries.has key = true) :
    assign sectionNumber v [key] entries = .error .configText := by
  simp [assign, h]

end Draft

end Toml

end Stagecraft
