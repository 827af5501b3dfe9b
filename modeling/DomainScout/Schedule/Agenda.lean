/-!
# Agendas

An agenda holds what is due, and when. The earliest item comes first, and of items due at the same
moment the one that was entered first.
-/
namespace DomainScout

/-- An item and the moment it is due, in milliseconds. -/
structure Timed (α : Type) where
  due : Nat
  item : α

/-- What is due, in the order of entry. -/
abbrev Agenda (α : Type) := List (Timed α)

namespace Agenda

variable {α : Type}

/-- Enter an item. -/
def enter (agenda : Agenda α) (due : Nat) (item : α) : Agenda α := agenda ++ [⟨due, item⟩]

/-- Take the earliest item. -/
def next? : Agenda α → Option (Timed α × Agenda α)
  | [] => none
  | first :: rest =>
    match next? rest with
    | none => some (first, rest)
    | some (later, others) =>
      if later.due < first.due then some (later, first :: others) else some (first, rest)

/-- Drop the items that satisfy a test. -/
def drop (agenda : Agenda α) (test : α → Bool) : Agenda α :=
  agenda.filter fun timed => !test timed.item

/-- What the items weigh together. -/
def total (weight : α → Nat) (agenda : Agenda α) : Nat :=
  agenda.foldr (fun timed rest => weight timed.item + rest) 0

example : ((next? [⟨2, 'a'⟩, ⟨1, 'b'⟩, ⟨1, 'c'⟩]).map fun p => p.1.item) = some 'b' := by decide

end Agenda

end DomainScout
