import DomainScout.Query.Compile
import DomainScout.Store.Schema
import DomainScout.Store.Search

/-!
# Exploring the domains table

The catalog of the domains table is loaded when it is first needed and then kept. A catalog that
cannot be loaded counts as empty and is kept like any other, until it is refreshed: then no column
plays any role, and nothing fails for it.
-/
namespace DomainScout

/-- What is remembered between requests. -/
structure Explorer where
  /-- The table of domains. -/
  table : TableRef
  defaultSchema : String
  /-- The catalog, once it is loaded. -/
  catalog : Option Catalog
  /-- The statements sent so far. -/
  asked : List Statement

/-- Work with the database that remembers. -/
abbrev Exploring (ε : Type) := ExceptT ε (StateM Explorer)

namespace Explorer

/-- An explorer that has not asked anything. -/
def new (table defaultSchema : String) : Explorer :=
  ⟨.parse table defaultSchema, defaultSchema, none, []⟩

/-- Put a statement on record. -/
def noted (explorer : Explorer) (statement : Statement) : Explorer :=
  { explorer with asked := explorer.asked ++ [statement] }

/-- Send a statement. -/
def ask (database : Database) (statement : Statement) : Exploring Failure (List Row) := do
  modify (noted · statement)
  ExceptT.mk (pure (database statement))

/-- The catalog that the database tells, or the empty one if it cannot. -/
def loaded (database : Database) (ref : TableRef) : Catalog :=
  match database (columnsStatement ref) >>= readCatalog with
  | .ok catalog => catalog
  | .error _ => .empty

/-- Load the catalog and keep it. -/
def refresh {ε : Type} (database : Database) : Exploring ε Catalog := do
  let explorer ← get
  let catalog := loaded database explorer.table
  set { explorer.noted (columnsStatement explorer.table) with catalog := some catalog }
  return catalog

/-- The catalog that is kept, loaded if there is none yet. -/
def current {ε : Type} (database : Database) : Exploring ε Catalog := do
  match (← get).catalog with
  | some catalog => return catalog
  | none => refresh database

/-- All tables. -/
def tables (database : Database) : Exploring Failure (List ListedTable) := do
  let rows ← ask database tablesStatement
  ExceptT.mk (pure (rows.mapM readTable))

/-- The table that a reference names; an empty one names the domains table. -/
def tableFor (explorer : Explorer) (ref : Value) : TableRef :=
  if ref.truthy then .parse ref.display explorer.defaultSchema else explorer.table

/-- The details of a table's columns. -/
def columns (database : Database) (ref : TableRef) : Exploring Failure (List ColumnDetail) := do
  let rows ← ask database (detailsStatement ref)
  ExceptT.mk (pure (rows.mapM readDetail))

/-- A sample of the values of a column; none if the database fails. -/
def sample {ε : Type} (database : Database) (ref : TableRef) (column : String) :
    Exploring ε (List Value) := do
  let statement := distinctStatement ref column
  modify (noted · statement)
  match database statement >>= readSample with
  | .ok values => return values
  | .error _ => return []

/-- Why a search returns nothing. -/
inductive SearchError where
  /-- No column holds the domains. -/
  | noDomain (table : TableRef)
  | failed (failure : Failure)

/-- What is told about a table without a column of domains. -/
def noDomainMessage (table : TableRef) : String :=
  "No domain column found in table " ++ table.qualified

/-- Count the matches, then fetch the page that is asked for. -/
def fetch (database : Database) (ref : TableRef) (compiled : Query.Compiled) (orderColumn : String)
    (number size : Value) : Exploring Failure SearchPage := do
  let page ← ExceptT.mk (pure
    ((Query.Page.clamp number size).mapError fun fault => Failure.crash (.number fault)))
  let counted ← ask database (countStatement ref compiled)
  let total ← ExceptT.mk (pure (readCount counted))
  let rows ← ask database (pageStatement ref compiled orderColumn page)
  let pages ← ExceptT.mk (pure
    ((page.total total).mapError fun fault => Failure.crash (.number fault)))
  return ⟨page, total, pages, rows⟩

/-- Search the domains table. -/
def search (database : Database) (criteria : Criteria) (number size : Value) :
    Exploring SearchError SearchPage := do
  let catalog ← current database
  let target := Query.Target.ofCatalog catalog
  let table := (← get).table
  match target.roles.column? .domain with
  | none => throw (.noDomain table)
  | some domain =>
    ExceptT.adapt .failed
      (fetch database table (Query.compile criteria target) domain number size)

end Explorer

end DomainScout
