import DomainScout.Catalog.Role
import DomainScout.Criteria.Basic
import DomainScout.Query.Quantity
import DomainScout.Sql.Predicate

/-!
# Lifecycle conditions

Whether a domain is active, expiring or deleted follows from whatever columns the table has.
Deletion comes first: a flag or a moment of deletion tells it, and only where the table has
neither, the text of the status. The other two states exclude deletion and add a condition of
their own. A state for which no column speaks adds no condition.

Stored text that does not read as a date or a number counts as null.
-/
namespace DomainScout.Query

open Sql

/-- What a query is compiled against: the catalog of the table and the roles of its columns. -/
structure Target where
  catalog : Catalog
  roles : RoleMap

/-- The target of a catalog with the roles as the catalog has them. -/
def Target.ofCatalog (catalog : Catalog) : Target := ⟨catalog, .resolve catalog⟩

/-- The stored text of a column. -/
def textOf (column : String) : Term := .asText (.column column)

/-- The stored text of a column, or null if it is empty. -/
def filledText (column : String) : Term := .nonEmpty (textOf column)

/-- The stored text of a column read as a type, or null. -/
def readAs (type : SqlType) (column : String) : Term := .tryCast (filledText column) type

/-- The stored number of a column, zero if there is none. -/
def countOf (column : String) : Term := .orZero (readAs .integer column)

/-- A text pattern as a bound value. -/
def pattern (s : String) : Term := .bound (.text s)

/-- A text that matches one of some patterns in any letter case, in parentheses. -/
def matchesAny (t : Term) (first : String) (more : List String) : Predicate :=
  .group (.anyOf (.compare t .ilike (pattern first))
    (more.map fun p => .compare t .ilike (pattern p)))

/-- A status that tells deletion. -/
def deletedStatus (column : String) : Predicate :=
  matchesAny (textOf column) "%deleted%" ["%dropped%", "%removed%"]

/-- A status that tells expiry. -/
def expiringStatus (column : String) : Predicate :=
  matchesAny (textOf column) "%expir%" ["%pending%", "%to_delete%"]

/-- A status that tells that the domain is in use. -/
def activeStatus (column : String) : Predicate :=
  matchesAny (textOf column) "active" ["ok", "registered", "%active%"]

/-- The flag of deletion is set. -/
def flagSet (target : Target) (column : String) : Predicate :=
  if target.catalog.isBoolean column then .ask (.column column) .isTrue
  else .compare (countOf column) .gt .zero

/-- A moment of deletion is on record. -/
def deletionRecorded (column : String) : Predicate := .ask (filledText column) .isNotNull

/-- What tells that a domain is deleted, if any column does. -/
def deletion? (target : Target) : Option Predicate :=
  let evidence := ((target.roles.column? .deletedFlag).map (flagSet target)).toList
    ++ ((target.roles.column? .deletedAt).map deletionRecorded).toList
  match evidence with
  | first :: more => some (.group (.anyOf first more))
  | [] => (target.roles.column? .status).map deletedStatus

/-- The date of a column lies between now and some days on. -/
def dueWithin (column : String) (days : Int) : Predicate :=
  .group (.and (.compare (readAs .timestamp column) .ge .now)
    (.compare (readAs .timestamp column) .lt
      (.daysAhead (.cast (.bound (.int days)) .integer))))

/-- The column with the date on which a domain ends. -/
def endColumn? (target : Target) : Option String :=
  (target.roles.column? .scheduledDelete).or (target.roles.column? .expires)

/-- What tells that a domain expires soon, if any column does. -/
def expiring? (target : Target) (days : Int) : Option Predicate :=
  match endColumn? target with
  | some column => some (dueWithin column days)
  | none => (target.roles.column? .status).map expiringStatus

/-- What tells that a domain is in use, if any column does. -/
def active? (target : Target) : Option Predicate :=
  let expiry := (target.roles.column? .expires).map fun column =>
    Predicate.compare (readAs .timestamp column) .ge .now
  let status := (target.roles.column? .status).map activeStatus
  match expiry, status with
  | some p, some q => some (.group (.or p q))
  | p, q => p.or q

/-- The conditions of a lifecycle state, given the days to look ahead. -/
def lifecycleConditions (state : Lifecycle) (days : Int) (target : Target) : List Predicate :=
  match state with
  | .deleted => (deletion? target).toList
  | .expiring => ((deletion? target).map .not).toList ++ (expiring? target days).toList
  | .active => ((deletion? target).map .not).toList ++ (active? target).toList

/-- The conditions of a state look some days ahead. -/
def looksAhead (state : Lifecycle) (target : Target) : Bool :=
  match state with
  | .expiring => (endColumn? target).isSome
  | .deleted | .active => false

/-- The conditions of a lifecycle state, given a value for the days to look ahead. Where nothing
looks ahead the value is not read. -/
def lifecycleWithin (state : Lifecycle) (days : Value) (target : Target) :
    Except NumberFault (List Predicate) := do
  let days ← if looksAhead state target then daysOf days else pure defaultDays
  return lifecycleConditions state days target

end DomainScout.Query
