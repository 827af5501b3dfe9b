/-!
# Slots

A client sends a limited number of requests at a time. Who comes when all slots are taken waits,
and slots that fall free are given out in the order of arrival.
-/
namespace DomainScout.Remote

/-- The slots of a client, and who waits for one. -/
structure Slots (α : Type) where
  capacity : Nat
  taken : Nat
  waiting : List α

namespace Slots

variable {α : Type}

/-- Nobody has a slot yet. -/
def free (capacity : Nat) : Slots α := ⟨capacity, 0, []⟩

/-- Ask for a slot: whether it is given at once. -/
def enter (slots : Slots α) (a : α) : Bool × Slots α :=
  if slots.taken < slots.capacity ∧ slots.waiting.isEmpty then
    (true, { slots with taken := slots.taken + 1 })
  else (false, { slots with waiting := slots.waiting ++ [a] })

/-- Give a slot back: who gets it next. -/
def leave (slots : Slots α) : Option α × Slots α :=
  match slots.waiting with
  | [] => (none, { slots with taken := slots.taken - 1 })
  | next :: rest => (some next, { slots with waiting := rest })

end Slots

end DomainScout.Remote
