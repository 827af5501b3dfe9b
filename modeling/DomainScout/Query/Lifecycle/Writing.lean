import DomainScout.Query.Lifecycle
import DomainScout.Sql.Writing

/-!
# Writing lifecycle conditions

The conditions of a lifecycle state are written with the binder of the query that they belong to.
What tells deletion is written first, whatever the state; two of the states exclude it and go on.
-/
namespace DomainScout.Query

open Sql

/-- Write what tells that a domain is deleted, if any column does. -/
def writeDeletion (target : Target) : StateM Binder (Option String) :=
  (deletion? target).mapM Predicate.write

/-- Write the conditions of a lifecycle state, given the days to look ahead. -/
def writeLifecycle (state : Lifecycle) (days : Int) (target : Target) :
    StateM Binder (List String) := do
  let deleted ← writeDeletion target
  let kept := (deleted.map ("NOT " ++ ·)).toList
  match state with
  | .deleted => return deleted.toList
  | .expiring =>
    let expiring ← (expiring? target days).mapM Predicate.write
    return kept ++ expiring.toList
  | .active =>
    let active ← (active? target).mapM Predicate.write
    return kept ++ active.toList

end DomainScout.Query
