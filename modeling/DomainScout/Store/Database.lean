import DomainScout.Crash

/-!
# Databases

A database answers a statement with rows or fails. All that the library asks of a database goes
through a record of the statements that were sent.
-/
namespace DomainScout

/-- What a statement is for. -/
inductive StatementKind where
  /-- The columns of the domains table, for finding the roles. -/
  | columns
  /-- The columns of some table, in detail. -/
  | details
  | tables
  /-- A sample of the values of a column. -/
  | distinct
  | count
  /-- One page of a search. -/
  | rows
  deriving DecidableEq

/-- A statement with the values that it refers to. -/
structure Statement where
  kind : StatementKind
  sql : String
  parameters : List Value

/-- A row: a value for each column name. -/
abbrev Row := Fields

/-- Why a statement got no rows. -/
inductive Failure where
  | query (message : String)
  | poolTimeout (message : String)
  | schema (message : String)
  | crash (crash : Crash)

/-- A database as it is at some moment. -/
abbrev Database := Statement → Except Failure (List Row)

/-- The value of a column that a row must have. -/
def Row.cell (row : Row) (name : String) : Except Failure Value :=
  match Value.lookup? name row with
  | some v => .ok v
  | none => .error (.crash .missingField)

/-- The integer of a column that a row must have. -/
def Row.intCell (row : Row) (name : String) : Except Failure Int := do
  let v ← row.cell name
  v.toInt.mapError fun fault => .crash (.number fault)

/-- The value of a column that a row may lack. -/
def Row.cellOrNull (row : Row) (name : String) : Value := (Value.lookup? name row).getD .null

/-- Lines of a statement. -/
def sqlLines (lines : List String) : String := "\n".intercalate lines

end DomainScout
