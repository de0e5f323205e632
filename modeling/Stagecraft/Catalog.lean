/-!
# Catalogs

A catalog holds one value for each of its keys, in the order in which the keys came. A later value
for a key takes the place of the earlier one. `byKey` builds the catalogs of textures and
animations, where one key stands for whatever is meant when nothing is named: it goes to the value
that asks for it, or else to the first.
-/

namespace Stagecraft

/-- Values by key, in the order of the keys' first appearance. -/
abbrev Catalog (α : Type) := List (String × α)

namespace Catalog

variable {α : Type}

def get? (m : Catalog α) (key : String) : Option α :=
  match m with
  | [] => none
  | (k, a) :: rest => if k = key then some a else get? rest key

def has (m : Catalog α) (key : String) : Bool := (get? m key).isSome

/-- Gives the key a value; a new key comes last. -/
def put (m : Catalog α) (key : String) (a : α) : Catalog α :=
  match m with
  | [] => [(key, a)]
  | (k, b) :: rest => if k = key then (k, a) :: rest else (k, b) :: put rest key a

def putNew (m : Catalog α) (key : String) (a : α) : Catalog α :=
  if has m key then m else put m key a

def putAll (m : Catalog α) (entries : List (String × α)) : Catalog α :=
  entries.foldl (fun m e => put m e.1 e.2) m

/-- The entries of another catalog, in the place of those with the same keys. -/
def update (m new : Catalog α) : Catalog α :=
  match m with
  | [] => new
  | _ => putAll m new

def keys (m : Catalog α) : List String := m.map Prod.fst

/-- The key of what is meant when nothing is named. -/
def defaultKey : String := "__default"

/-- The catalog of the values by their keys, the first also as the default while none asks to
be. -/
def byKey (key : α → String) (items : List α) : Catalog α :=
  items.foldl (fun m a => putNew (put m (key a) a) defaultKey a) []

@[simp] theorem update_nil (new : Catalog α) : update [] new = new := rfl

@[simp] theorem get?_nil (key : String) : get? ([] : Catalog α) key = none := rfl

theorem get?_put_self (m : Catalog α) (key : String) (a : α) : get? (put m key a) key = some a := by
  induction m with
  | nil => simp [put, get?]
  | cons e m ih =>
      obtain ⟨k, b⟩ := e
      by_cases h : k = key <;> simp [put, get?, h, ih]

theorem get?_put_of_ne (m : Catalog α) {key other : String} (a : α) (h : other ≠ key) :
    get? (put m key a) other = get? m other := by
  induction m with
  | nil => simp [put, get?, Ne.symm h]
  | cons e m ih =>
      obtain ⟨k, b⟩ := e
      by_cases hk : k = key
      · subst hk
        simp [put, get?, Ne.symm h]
      · rw [put, if_neg hk]
        simp only [get?, ih]

end Catalog

end Stagecraft
