import DomainScout.Query.Compile
import DomainScout.Query.Page
import DomainScout.Store.Database

/-!
# Searching

A search counts the rows that match and then fetches one page of them. Both statements have the
same conditions and the same values; the page adds its size and its offset.
-/
namespace DomainScout

open Query

/-- Count the rows that match. -/
def countStatement (ref : TableRef) (compiled : Compiled) : Statement where
  kind := .count
  sql := "SELECT COUNT(*) AS total FROM " ++ Sql.quoteTable ref ++ " " ++ compiled.whereSql
  parameters := compiled.parameters

/-- Read a count; no row, or nothing in it, counts as zero. -/
def readCount (rows : List Row) : Except Failure Int :=
  match rows with
  | [] | [] :: _ => .ok 0
  | row :: _ => do
    let total ← row.cell "total"
    (total.orElse (.int 0)).toInt.mapError fun fault => .crash (.number fault)

/-- Fetch a page of the rows that match, in the order of a column. -/
def pageStatement (ref : TableRef) (compiled : Compiled) (orderColumn : String) (page : Page) :
    Statement :=
  let (size, binder) := Sql.Binder.bind ⟨compiled.parameters⟩ (.int page.size)
  let (offset, binder) := binder.bind (.int page.offset)
  { kind := .rows
    sql := sqlLines
      ["SELECT " ++ compiled.selectSql,
       "FROM " ++ Sql.quoteTable ref,
       compiled.whereSql,
       "ORDER BY " ++ Sql.quoteIdent orderColumn ++ " ASC",
       "LIMIT " ++ size,
       "OFFSET " ++ offset]
    parameters := binder.values }

/-- One page of a search. -/
structure SearchPage where
  page : Page
  /-- How many rows match. -/
  total : Int
  /-- How many pages they make. -/
  pages : Int
  rows : List Row

end DomainScout
