import DomainScout.Text.Blank
import DomainScout.Text.Part
import DomainScout.Text.Case
import DomainScout.Value.Basic

/-!
# Tables and their columns

A table is named by its schema and its own name. The catalog of a table lists its columns in
order; columns are looked up in any letter case, and of two that differ only in case the first
one counts.
-/
namespace DomainScout

open Text

/-- A table in a schema. -/
structure TableRef where
  schema : String
  table : String
  deriving DecidableEq

namespace TableRef

/-- The table that stands in for a reference that names none. -/
def fallbackTable : String := "expired_domains"

/-- The trimmed parts of a reference that are not blank. -/
def parts (ref : String) : List String :=
  ((pieces (· == '.') (trimBoth isBlank ref.toList)).map (trimBoth isBlank)).filter
    (fun part => !part.isEmpty) |>.map String.ofList

/-- Read `table` or `schema.table`; anything else stands for the fallback table. -/
def parse (ref defaultSchema : String) : TableRef :=
  match parts ref with
  | [table] => ⟨defaultSchema, table⟩
  | [schema, table] => ⟨schema, table⟩
  | _ => ⟨defaultSchema, fallbackTable⟩

/-- The reference as text. -/
def qualified (ref : TableRef) : String := ref.schema ++ "." ++ ref.table

example : parse " s . t " "main" = ⟨"s", "t"⟩ := by decide +kernel

end TableRef

/-- One column of a catalog. -/
structure Column where
  name : String
  dataType : String
  /-- The name of the underlying type, as the database reports it. -/
  underlying : Value
  position : Int

/-- The column holds truth values. -/
def Column.isBoolean (column : Column) : Bool := lower column.dataType == "boolean"

/-- The columns of a table, in order. -/
structure Catalog where
  columns : List Column

namespace Catalog

/-- A catalog without columns. -/
def empty : Catalog := ⟨[]⟩

/-- The first column with a name, in any letter case. -/
def column? (catalog : Catalog) (name : String) : Option Column :=
  catalog.columns.find? fun column => lower column.name == lower name

/-- The names of the columns, in order. -/
def names (catalog : Catalog) : List String := catalog.columns.map Column.name

/-- The named column exists and holds truth values. -/
def isBoolean (catalog : Catalog) (name : String) : Bool :=
  (catalog.column? name).any Column.isBoolean

end Catalog

end DomainScout
