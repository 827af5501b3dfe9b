import DomainScout.Query.Filter
import DomainScout.Query.Projection

/-!
# Compiled queries

Criteria compile, filter by filter, to conditions that all have to hold, and to the columns that
are selected.
-/
namespace DomainScout.Query

open Sql

/-- What criteria compile to. -/
structure Compiled where
  /-- The conditions, all of which have to hold. -/
  conditions : List Predicate
  /-- The selected columns. -/
  selection : List Selected

namespace Compiled

/-- The texts of the conditions. -/
def fragments (compiled : Compiled) : List String := Predicate.texts 0 compiled.conditions

/-- The values that the conditions refer to. -/
def parameters (compiled : Compiled) : List Value := Predicate.allValues compiled.conditions

/-- The clause that joins the conditions; without conditions there is none. -/
def whereSql (compiled : Compiled) : String :=
  if compiled.fragments.isEmpty then "" else "WHERE " ++ " AND ".intercalate compiled.fragments

/-- The list of the selected columns. -/
def selectSql (compiled : Compiled) : String :=
  ",\n       ".intercalate (compiled.selection.map Selected.text)

end Compiled

/-- Compile criteria against a target. -/
def compile (criteria : Criteria) (target : Target) : Compiled where
  conditions := Filter.all.flatMap (Filter.conditions target criteria)
  selection := projection target.roles target.catalog

end DomainScout.Query
