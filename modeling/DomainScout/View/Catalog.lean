import DomainScout.View.Response

/-!
# Browsing the catalog

Requests for the tables, for the columns of a table, and for what the domains table supports.
-/
namespace DomainScout.View

/-- The service is up. -/
def health : Value := object [("status", .text "ok")]

/-- A table of a response. -/
structure TableItem where
  schema : String
  name : String
  type : String

/-- A listed table whose parts are all texts. -/
def TableItem.ofListed (table : ListedTable) : Except ViewError TableItem :=
  return ⟨← textOf table.schema, ← textOf table.name, ← textOf table.type⟩

/-- A table as an object. -/
def TableItem.value (item : TableItem) : Value :=
  object [("schema", .text item.schema), ("name", .text item.name), ("type", .text item.type)]

/-- Answer a request for the tables. -/
def tables (database : Database) : Exploring ViewError Value := do
  let listed ← ExceptT.adapt ofFailure (Explorer.tables database)
  let items ← ExceptT.mk (pure (listed.mapM TableItem.ofListed))
  return object [("tables", .list (items.map TableItem.value))]

/-- A column of a response. -/
structure ColumnItem where
  position : Int
  name : String
  dataType : String
  underlying : Option String
  nullable : Bool
  defaultValue : Option String

/-- A described column whose parts are texts. -/
def ColumnItem.ofDetail (detail : ColumnDetail) : Except ViewError ColumnItem :=
  return {
    position := detail.position
    name := ← textOf detail.name
    dataType := ← textOf detail.type
    underlying := ← textOf? detail.underlying
    nullable := detail.nullable
    defaultValue := ← textOf? detail.defaultValue }

/-- A column as an object. -/
def ColumnItem.value (item : ColumnItem) : Value :=
  object
    [("position", .int item.position), ("name", .text item.name),
     ("data_type", .text item.dataType), ("udt", .ofText? item.underlying),
     ("nullable", .bool item.nullable), ("default", .ofText? item.defaultValue)]

/-- Answer a request for the columns of a table. -/
def columns (database : Database) (ref : Value) : Exploring ViewError Value := do
  let table := (← get).tableFor ref
  let details ← ExceptT.adapt ofFailure (Explorer.columns database table)
  let items ← ExceptT.mk (pure (details.mapM ColumnItem.ofDetail))
  return object [("table", .text table.qualified), ("columns", .list (items.map ColumnItem.value))]

/-- The families of filters that a table may support. -/
inductive Family where
  | lifecycle
  | ageRange
  | creationDateRange
  | keywords
  | tld
  | wayback
  | spamhaus
  | viewsTotal
  deriving DecidableEq

namespace Family

/-- All families. -/
def all : List Family :=
  [lifecycle, ageRange, creationDateRange, keywords, tld, wayback, spamhaus, viewsTotal]

/-- The name of a family. -/
def name : Family → String
  | lifecycle => "lifecycle"
  | ageRange => "ageRange"
  | creationDateRange => "creationDateRange"
  | keywords => "keywords"
  | tld => "tld"
  | wayback => "wayback"
  | spamhaus => "spamhaus"
  | viewsTotal => "viewsTotal"

/-- The table has a column that filters of the family need. -/
def supported (roles : RoleMap) : Family → Bool
  | lifecycle => roles.supportsLifecycle
  | ageRange | creationDateRange => (roles.given .created).isSome
  | keywords => (roles.given .domain).isSome
  | tld => (roles.given .tld).isSome || (roles.given .domain).isSome
  | wayback => (roles.given .wayback).isSome
  | spamhaus => (roles.given .spamhaus).isSome
  | viewsTotal => (roles.given .viewsTotal).isSome

end Family

/-- What the domains table supports. -/
structure Capabilities where
  table : TableRef
  catalog : Catalog
  roles : RoleMap
  /-- Some of the values of the status column. -/
  statusValues : List Value

/-- Find out what the domains table supports. -/
def discover {ε : Type} (database : Database) : Exploring ε Capabilities := do
  let catalog ← Explorer.current database
  let roles := RoleMap.resolve catalog
  let table := (← get).table
  let statusValues ← match roles.column? .status with
    | some column => Explorer.sample database table column
    | none => pure []
  return ⟨table, catalog, roles, statusValues⟩

/-- A column as capabilities list it. -/
def columnValue (column : Column) : Except ViewError Value := do
  let underlying ← textOf? column.underlying
  return object [("name", .text column.name), ("data_type", .text column.dataType),
    ("udt", .ofText? underlying)]

/-- The column picked for a role, under the role's own name. -/
def pickedField (roles : RoleMap) (role : Role) : FieldName × Value :=
  (Text.camelCase role.name ++ "Column", .ofText? (roles.given role))

/-- Capabilities as an object. -/
def Capabilities.value (found : Capabilities) : Except ViewError Value := do
  let columns ← found.catalog.columns.mapM columnValue
  let statusValues ← found.statusValues.mapM textOf
  return object
    [("table", .text found.table.qualified), ("columns", .list columns),
     ("supports", .object (Family.all.map fun family =>
       (family.name, .bool (family.supported found.roles)))),
     ("columns_picked", .object (Role.all.map (pickedField found.roles))),
     ("status_values", .list (statusValues.map .text))]

/-- Answer a request for what the domains table supports. -/
def capabilities (database : Database) : Exploring ViewError Value := do
  let found ← discover database
  ExceptT.mk (pure found.value)

/-- Load the catalog again: the names of its columns. -/
def refresh (database : Database) : Exploring ViewError Value := do
  let catalog ← Explorer.refresh database
  return .list (catalog.names.map .text)

end DomainScout.View
