import DomainScout.Criteria.Reading
import DomainScout.View.Response

/-!
# Searching for domains

A request names its criteria and the page that it wants. Criteria that cannot be read are refused
before the database is asked.
-/
namespace DomainScout.View

/-- A row as an object. -/
def rowValue (row : Row) : Except ViewError Value :=
  return .object (← row.mapM fun (name, v) => return (name, ← enclose v))

/-- A page as an object. -/
def pageValue (page : SearchPage) : Except ViewError Value := do
  let items ← page.rows.mapM rowValue
  return object
    [("page", .int page.page.number), ("page_size", .int page.page.size), ("total", .int page.total),
     ("total_pages", .int page.pages), ("items", .list items)]

/-- What a failed search means to a request. -/
def ofSearchError : Explorer.SearchError → ViewError
  | .noDomain table => .service (Explorer.noDomainMessage table)
  | .failed (.query message) | .failed (.poolTimeout message) | .failed (.schema message) =>
    .service message
  | .failed (.crash crash) => .unhandled (.crash crash)

/-- The criteria of a request body. -/
def criteriaOf (body : Fields) : Except ViewError Criteria :=
  (Criteria.ofValue (field body "criteria")).mapError fun refusal => .invalid refusal.message

/-- Answer a request for domains. -/
def search (database : Database) (body : Value) : Exploring ViewError Value := do
  let body ← ExceptT.mk (pure (bodyOf body))
  let criteria ← ExceptT.mk (pure (criteriaOf body))
  let page ← ExceptT.adapt ofSearchError
    (Explorer.search database criteria (field body "page") (field body "pageSize"))
  ExceptT.mk (pure (pageValue page))

end DomainScout.View
