import Stagecraft.Catalog

/-!
# Event buses

A bus keeps the handlers of each event in the order in which they were bound. The name of an event
stays known when its last handler is gone.
-/

namespace Stagecraft

/-- The handlers of events, by name. -/
abbrev Bus (H : Type) := Catalog (List H)

namespace Bus

variable {H : Type}

/-- The handlers of an event, first bound first. -/
def bound (b : Bus H) (event : String) : List H := (b.get? event).getD []

/-- Binds a handler after those that are there. -/
def bind (b : Bus H) (event : String) (h : H) : Bus H := b.put event (b.bound event ++ [h])

/-- Takes away the first handler that `same` finds. -/
def unbind (b : Bus H) (event : String) (same : H → Bool) : Bus H :=
  match b.get? event with
  | none => b
  | some hs => b.put event (hs.eraseP same)

theorem bound_bind_self (b : Bus H) (event : String) (h : H) :
    (b.bind event h).bound event = b.bound event ++ [h] := by
  simp [bound, bind, Catalog.get?_put_self]

theorem bound_bind_of_ne (b : Bus H) {event other : String} (h : H) (hne : other ≠ event) :
    (b.bind event h).bound other = b.bound other := by
  simp [bound, bind, Catalog.get?_put_of_ne _ _ hne]

end Bus

end Stagecraft
