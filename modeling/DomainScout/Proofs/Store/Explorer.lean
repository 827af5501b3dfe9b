import DomainScout.Proofs.Number.Range
import DomainScout.Store.Explorer

/-!
# What a search asks

A search goes by the catalog that is kept, or else asks for one. If a column holds the domains, it
asks how many rows match, and only when that is answered, for one page of them.

Main statements: `Explorer.run_search`, `Explorer.fetched`.
-/
namespace DomainScout

/-! ### Databases -/

/-- What is told when the database fails. -/
inductive Failure.Reports : Failure → String → Prop where
  | query (message : String) : Reports (.query message) message
  | poolTimeout (message : String) : Reports (.poolTimeout message) message

theorem Failure.Reports.unique {failure : Failure} {one other : String}
    (reports : failure.Reports one) (reports' : failure.Reports other) : one = other := by
  cases reports <;> cases reports' <;> rfl

/-- A row holds a count: a natural number of 63 bits, or nothing. -/
def Row.IsCount (row : Row) : Prop :=
  row.cell "total" = .ok .null ∨ ∃ n : Nat, n < 2 ^ 63 ∧ row.cell "total" = .ok (.int n)

/-- A database that counts in numbers and that fails in no other ways than databases do. The rows
of all its other answers may be anything. -/
structure Database.Typed (database : Database) : Prop where
  failures : ∀ statement failure, database statement = .error failure →
    ∃ message, failure.Reports message
  counts : ∀ statement rows, statement.kind = .count → database statement = .ok rows →
    ∀ row ∈ rows, row.IsCount

/-- The first row tells the count. -/
theorem readCount_eq_ok {rows : List Row} (counts : ∀ row ∈ rows, row.IsCount) :
    ∃ n : Nat, n < 2 ^ 63 ∧ readCount rows = .ok n := by
  cases rows with
  | nil => exact ⟨0, by decide, rfl⟩
  | cons row rest =>
    cases row with
    | nil => exact ⟨0, by decide, rfl⟩
    | cons first more =>
      rcases counts _ List.mem_cons_self with cell | ⟨n, small, cell⟩
      · refine ⟨0, by decide, ?_⟩
        simp only [readCount, cell]
        rfl
      · refine ⟨n, small, ?_⟩
        simp only [readCount, cell]
        -- A count of zero is empty, and then zero stands in for it.
        cases n <;> rfl

namespace Explorer

/-! ### Steps -/

section Steps

variable {ε α β : Type} {explorer after : Explorer} {step : Exploring ε α} {next : α → Exploring ε β}

/-- The next step is taken where this one got. -/
theorem run_bind_ok {a : α} (run : step.run explorer = (.ok a, after)) :
    (step >>= next).run explorer = (next a).run after := by
  change (ExceptT.bindCont next (step.run explorer).1) (step.run explorer).2 = _
  rw [run]
  rfl

theorem run_bind_error {error : ε} (run : step.run explorer = (.error error, after)) :
    (step >>= next).run explorer = (.error error, after) := by
  change (ExceptT.bindCont next (step.run explorer).1) (step.run explorer).2 = _
  rw [run]
  rfl

theorem run_given {given result : Except ε α} (eq : given = result) :
    (ExceptT.mk (pure given) : Exploring ε α).run explorer = (result, explorer) :=
  congrArg (·, explorer) eq

theorem run_ask {database : Database} {statement : Statement} {answer : Except Failure (List Row)}
    (eq : database statement = answer) :
    (ask database statement).run explorer = (answer, explorer.noted statement) :=
  congrArg (·, explorer.noted statement) eq

theorem run_get : (get : Exploring ε Explorer).run explorer = (.ok explorer, explorer) := rfl

theorem run_adapt {ε' : Type} {f : ε → ε'} {result : Except ε α}
    (run : step.run explorer = (result, after)) :
    (ExceptT.adapt f step).run explorer = (result.mapError f, after) := by
  change ((step.run explorer).1.mapError f, (step.run explorer).2) = _
  rw [run]

theorem mapError_ok {ε' : Type} {f : ε → ε'} {result : Except ε α} {a : α} (ok : result = .ok a) :
    result.mapError f = .ok a := ok ▸ rfl

theorem mapError_error {ε' : Type} {f : ε → ε'} {result : Except ε α} {error : ε}
    (failed : result = .error error) : result.mapError f = .error (f error) := failed ▸ rfl

end Steps

/-! ### The catalog -/

/-- The catalog that a search goes by: the one that is kept, or else what the database tells. -/
def inForce (explorer : Explorer) (database : Database) : Catalog :=
  explorer.catalog.getD (loaded database explorer.table)

/-- What is asked to get a catalog: nothing if one is kept. -/
def metadata (explorer : Explorer) : List Statement :=
  if explorer.catalog.isSome then [] else [columnsStatement explorer.table]

/-- The explorer once it has a catalog. -/
def informed (explorer : Explorer) (database : Database) : Explorer :=
  { explorer with
    catalog := some (explorer.inForce database), asked := explorer.asked ++ explorer.metadata }

theorem run_current {ε : Type} (database : Database) (explorer : Explorer) :
    (current database : Exploring ε Catalog).run explorer =
      (.ok (explorer.inForce database), explorer.informed database) := by
  obtain ⟨table, defaultSchema, catalog, asked⟩ := explorer
  cases catalog with
  | none => rfl
  | some catalog =>
    simp only [informed, metadata, inForce, Option.isSome_some, if_true, List.append_nil]
    rfl

/-! ### Searches -/

/-- What a search asks of a table. -/
structure SearchPlan where
  table : TableRef
  compiled : Query.Compiled
  /-- The column of the domains, which gives the order. -/
  domain : String

/-- How many rows match. -/
def SearchPlan.count (plan : SearchPlan) : Statement := countStatement plan.table plan.compiled

/-- The rows of a page. -/
def SearchPlan.page (plan : SearchPlan) (page : Query.Page) : Statement :=
  pageStatement plan.table plan.compiled plan.domain page

/-- What some criteria lead to, if there is a column of domains. -/
def plan? (explorer : Explorer) (database : Database) (criteria : Criteria) : Option SearchPlan :=
  let target := Query.Target.ofCatalog (explorer.inForce database)
  (target.roles.column? .domain).map fun domain =>
    ⟨explorer.table, Query.compile criteria target, domain⟩

/-- How a search ends that has a catalog. -/
inductive Fetched (database : Database) (plan : SearchPlan) (number size : Value)
    (explorer : Explorer) : Except Failure SearchPage × Explorer → Prop where
  | unbounded (vast : number.OutOfRange ∨ size.OutOfRange) :
      Fetched database plan number size explorer (.error (.crash (.number .outOfRange)), explorer)
  | uncounted (fits : ¬ (number.OutOfRange ∨ size.OutOfRange)) (failure : Failure)
      (count : database plan.count = .error failure) :
      Fetched database plan number size explorer (.error failure, explorer.noted plan.count)
  | unfetched (fits : ¬ (number.OutOfRange ∨ size.OutOfRange)) (counted : List Row)
      (count : database plan.count = .ok counted) (page : Query.Page)
      (bounds : Query.Page.clamp number size = .ok page) (failure : Failure)
      (fetch : database (plan.page page) = .error failure) :
      Fetched database plan number size explorer
        (.error failure, (explorer.noted plan.count).noted (plan.page page))
  | fetched (fits : ¬ (number.OutOfRange ∨ size.OutOfRange)) (counted : List Row)
      (count : database plan.count = .ok counted) (result : SearchPage)
      (read : readCount counted = .ok result.total)
      (bounds : Query.Page.clamp number size = .ok result.page)
      (quotient : result.page.total result.total = .ok result.pages)
      (fetch : database (plan.page result.page) = .ok result.rows) :
      Fetched database plan number size explorer
        (.ok result, (explorer.noted plan.count).noted (plan.page result.page))

theorem run_search (database : Database) (criteria : Criteria) (number size : Value)
    (explorer : Explorer) :
    (search database criteria number size).run explorer =
      match explorer.plan? database criteria with
      | none => (.error (.noDomain explorer.table), explorer.informed database)
      | some plan =>
        (ExceptT.adapt .failed (fetch database plan.table plan.compiled plan.domain number size)).run
          (explorer.informed database) := by
  unfold search plan?
  rw [run_bind_ok (run_current database explorer)]
  -- It does not matter how the roles were found, only whether one of them is the domain's.
  generalize Query.Target.ofCatalog (explorer.inForce database) = target
  dsimp only
  rw [run_bind_ok run_get]
  generalize target.roles.column? .domain = domain
  cases domain with
  | none => rfl
  | some domain => rfl

/-- What is counted can be read, and makes a number of pages. -/
theorem exists_pages {database : Database} (typed : database.Typed) {plan : SearchPlan}
    {counted : List Row} (count : database plan.count = .ok counted) {page : Query.Page}
    (bounded : page.Bounded) :
    ∃ total pages, readCount counted = .ok total ∧ page.total total = .ok pages := by
  obtain ⟨total, small, read⟩ := readCount_eq_ok (typed.counts plan.count counted rfl count)
  have fits : (total : Int).natAbs < 2 ^ 64 := by omega
  obtain ⟨pages, quotient⟩ := Query.Page.total_eq_ok bounded fits
  exact ⟨total, pages, read, quotient⟩

/-- A typed database leaves no other ends. -/
theorem fetched {database : Database} (typed : database.Typed) (plan : SearchPlan)
    (number size : Value) (explorer : Explorer) :
    Fetched database plan number size explorer
      ((fetch database plan.table plan.compiled plan.domain number size).run explorer) := by
  unfold fetch
  rcases Query.Page.clamp_cases number size with ⟨vast, bounds⟩ | ⟨fits, page, bounds, bounded⟩
  · rw [run_bind_error (run_given (mapError_error bounds))]
    exact .unbounded vast
  · -- From here on the cases are the answers of the database, in the order in which it is asked.
    rw [run_bind_ok (run_given (mapError_ok bounds)), ← SearchPlan.count, ← SearchPlan.page]
    cases count : database plan.count with
    | error failure =>
      rw [run_bind_error (run_ask count)]
      exact .uncounted fits failure count
    | ok counted =>
      obtain ⟨total, pages, read, quotient⟩ := exists_pages typed count bounded
      rw [run_bind_ok (run_ask count), run_bind_ok (run_given read)]
      cases fetch : database (plan.page page) with
      | error failure =>
        rw [run_bind_error (run_ask fetch)]
        exact .unfetched fits counted count page bounds failure fetch
      | ok rows =>
        rw [run_bind_ok (run_ask fetch), run_bind_ok (run_given (mapError_ok quotient))]
        exact .fetched fits counted count ⟨page, total, pages, rows⟩ read bounds quotient fetch

end Explorer

end DomainScout
