import DomainScout.Sql.Ident
import DomainScout.Store.Database
import DomainScout.Value.Display

/-!
# What the database tells about its tables

The statements that ask for tables, for columns and for the values of a column, and how their rows
are read. A row that lacks what is needed fails the whole reading.
-/
namespace DomainScout

/-- Ask for the columns that can play roles. -/
def columnsStatement (ref : TableRef) : Statement where
  kind := .columns
  sql := sqlLines
    ["SELECT column_name, data_type, udt_name, ordinal_position",
     "FROM information_schema.columns",
     "WHERE table_schema = $1 AND table_name = $2",
     "ORDER BY ordinal_position ASC"]
  parameters := [.text ref.schema, .text ref.table]

/-- Read a column of the catalog. A missing type name is the empty one, and a missing underlying
type is the type. -/
def readColumn (row : Row) : Except Failure Column := do
  let name ← row.cell "column_name"
  let type ← row.cell "data_type"
  let position ← row.intCell "ordinal_position"
  return {
    name := name.display
    dataType := (type.orElse (.text "")).display
    underlying := (row.cellOrNull "udt_name").orElse type
    position }

/-- Read a catalog. -/
def readCatalog (rows : List Row) : Except Failure Catalog := return ⟨← rows.mapM readColumn⟩

/-- A table as the database lists it. -/
structure ListedTable where
  schema : Value
  name : Value
  type : Value

/-- Ask for all tables but those of the system. -/
def tablesStatement : Statement where
  kind := .tables
  sql := sqlLines
    ["SELECT table_schema, table_name, table_type",
     "FROM information_schema.tables",
     "WHERE table_schema NOT IN ($1, $2)",
     "ORDER BY table_schema ASC, table_name ASC"]
  parameters := [.text "pg_catalog", .text "information_schema"]

/-- Read a table. -/
def readTable (row : Row) : Except Failure ListedTable :=
  return ⟨← row.cell "table_schema", ← row.cell "table_name", ← row.cell "table_type"⟩

/-- A column as the database describes it. -/
structure ColumnDetail where
  position : Int
  name : Value
  type : Value
  underlying : Value
  nullable : Bool
  defaultValue : Value

/-- Ask for the details of a table's columns. -/
def detailsStatement (ref : TableRef) : Statement where
  kind := .details
  sql := sqlLines
    ["SELECT ordinal_position, column_name, data_type, udt_name, is_nullable, column_default",
     "FROM information_schema.columns",
     "WHERE table_schema = $1 AND table_name = $2",
     "ORDER BY ordinal_position ASC"]
  parameters := [.text ref.schema, .text ref.table]

/-- The word for a column that may be null. -/
def saysYes : Value → Bool
  | .text s => s == "YES"
  | _ => false

/-- Read the details of a column. -/
def readDetail (row : Row) : Except Failure ColumnDetail := do
  let position ← row.intCell "ordinal_position"
  let name ← row.cell "column_name"
  let type ← row.cell "data_type"
  let nullable ← row.cell "is_nullable"
  let defaultValue ← row.cell "column_default"
  return ⟨position, name, type, row.cellOrNull "udt_name", saysYes nullable, defaultValue⟩

/-- How many values of a column are sampled. -/
def sampleLimit : Int := 50

/-- Ask for some of the values of a column, as text. -/
def distinctStatement (ref : TableRef) (column : String) : Statement :=
  let quoted := Sql.quoteIdent column
  { kind := .distinct
    sql := "SELECT DISTINCT " ++ quoted ++ "::text AS v FROM " ++ Sql.quoteTable ref ++ " WHERE "
      ++ quoted ++ " IS NOT NULL LIMIT " ++ Sql.placeholder 0
    parameters := [.int sampleLimit] }

/-- Read a sample; what is empty does not count. -/
def readSample (rows : List Row) : Except Failure (List Value) := do
  let values ← rows.mapM fun row => row.cell "v"
  return values.filter Value.truthy

end DomainScout
