import DomainScout.Proofs.Store.Explorer
import DomainScout.View.Search

/-!
# How searches fail

A search for domains ends with a response, is refused or reports a failure of the database, except
where a number of the request is out of the range of numbers or a row is nested too deeply for a
response. What is refused is refused before anything is asked, and nothing is asked after a failure.

Main statement: `disciplined`.
-/
namespace DomainScout.View

/-! ### Rows in responses -/

/-- If an item fails in one way or is fine, then so does a list of items. -/
theorem mapM_cases {ε α β : Type} {f : α → Except ε β} {error : ε} {Fine : α → Prop}
    (each : ∀ item, (Fine item ∧ ∃ b, f item = .ok b) ∨ (¬ Fine item ∧ f item = .error error))
    (items : List α) :
    ((∀ item ∈ items, Fine item) ∧ ∃ results, items.mapM f = .ok results) ∨
      ((¬ ∀ item ∈ items, Fine item) ∧ items.mapM f = .error error) := by
  induction items with
  | nil => exact .inl ⟨nofun, [], rfl⟩
  | cons item rest ih =>
    rw [List.mapM_cons, List.forall_mem_cons]
    rcases each item with ⟨fine, b, eq⟩ | ⟨bad, eq⟩
    · rw [eq]
      rcases ih with ⟨others, results, eq'⟩ | ⟨bad, eq'⟩
      · rw [eq']
        exact .inl ⟨⟨fine, others⟩, b :: results, rfl⟩
      · rw [eq']
        exact .inr ⟨fun both => bad both.2, rfl⟩
    · rw [eq]
      exact .inr ⟨fun both => bad both.1, rfl⟩

/-- Every value of a row fits into a response. -/
def Shallow (row : Row) : Prop := ∀ cell ∈ row, cell.2.levels ≤ maxLevels

/-- What a value ends in that is nested too deeply. -/
def tooDeep : ViewError := .unhandled (.crash .tooDeep)

theorem rowValue_cases (row : Row) :
    (Shallow row ∧ ∃ v, rowValue row = .ok v) ∨ (¬ Shallow row ∧ rowValue row = .error tooDeep) := by
  unfold rowValue
  have each (cell : FieldName × Value) :
      (cell.2.levels ≤ maxLevels ∧
          ∃ pair, (return (cell.1, ← enclose cell.2) : Except ViewError _) = .ok pair) ∨
        (¬ cell.2.levels ≤ maxLevels ∧
          (return (cell.1, ← enclose cell.2) : Except ViewError _) = .error tooDeep) := by
    unfold enclose
    by_cases fits : cell.2.levels ≤ maxLevels
    · rw [if_pos fits]
      exact .inl ⟨fits, _, rfl⟩
    · rw [if_neg fits]
      exact .inr ⟨fits, rfl⟩
  rcases mapM_cases each row with ⟨shallow, cells, eq⟩ | ⟨deep, eq⟩
  · rw [eq]
    exact .inl ⟨shallow, _, rfl⟩
  · rw [eq]
    exact .inr ⟨deep, rfl⟩

theorem pageValue_cases (page : SearchPage) :
    ((∀ row ∈ page.rows, Shallow row) ∧ ∃ v, pageValue page = .ok v) ∨
      ((¬ ∀ row ∈ page.rows, Shallow row) ∧ pageValue page = .error tooDeep) := by
  unfold pageValue
  rcases mapM_cases rowValue_cases page.rows with ⟨shallow, items, eq⟩ | ⟨deep, eq⟩
  · rw [eq]
    exact .inl ⟨shallow, _, rfl⟩
  · rw [eq]
    exact .inr ⟨deep, rfl⟩

/-! ### Requests -/

/-- A request that was read. -/
structure Request where
  criteria : Criteria
  /-- The number of the page, as it was sent. -/
  number : Value
  /-- The size of the page, as it was sent. -/
  size : Value

/-- Read a request body. -/
def Request.ofBody (body : Value) : Except ViewError Request := do
  let fields ← bodyOf body
  let criteria ← criteriaOf fields
  return ⟨criteria, field fields "page", field fields "pageSize"⟩

/-- The request asks for a page by a number that is out of range. -/
def Request.OutOfRange (request : Request) : Prop :=
  request.number.OutOfRange ∨ request.size.OutOfRange

theorem bodyOf_cases (body : Value) :
    (∃ fields, bodyOf body = .ok fields) ∨ ∃ message, bodyOf body = .error (.invalid message) := by
  cases body with
  | null => exact .inl ⟨[], rfl⟩
  | object fields => exact .inl ⟨fields, rfl⟩
  | bool | int | real | text | ragged | list => exact .inr ⟨_, rfl⟩

theorem criteriaOf_cases (fields : Fields) :
    (∃ criteria, criteriaOf fields = .ok criteria) ∨
      ∃ message, criteriaOf fields = .error (.invalid message) := by
  unfold criteriaOf
  cases Criteria.ofValue (field fields "criteria") with
  | ok criteria => exact .inl ⟨criteria, rfl⟩
  | error refusal => exact .inr ⟨refusal.message, rfl⟩

/-- A request is refused before anything is asked, or it is read. -/
theorem run_search (database : Database) (body : Value) (explorer : Explorer) :
    (∃ message, Request.ofBody body = .error (.invalid message) ∧
        (search database body).run explorer = (.error (.invalid message), explorer)) ∨
      ∃ request, Request.ofBody body = .ok request ∧
        (search database body).run explorer =
          (ExceptT.adapt ofSearchError
              (Explorer.search database request.criteria request.number request.size) >>=
            fun page => ExceptT.mk (pure (pageValue page))).run explorer := by
  unfold search Request.ofBody
  rcases bodyOf_cases body with ⟨fields, read⟩ | ⟨message, refused⟩
  · rw [read, Explorer.run_bind_ok (Explorer.run_given rfl)]
    rcases criteriaOf_cases fields with ⟨criteria, read⟩ | ⟨message, refused⟩
    · rw [Explorer.run_bind_ok (Explorer.run_given read)]
      refine .inr ⟨⟨criteria, field fields "page", field fields "pageSize"⟩, ?_, rfl⟩
      change (criteriaOf fields >>= _) = _
      rw [read]
      rfl
    · rw [Explorer.run_bind_error (Explorer.run_given refused)]
      refine .inl ⟨message, ?_, rfl⟩
      change (criteriaOf fields >>= _) = _
      rw [refused]
      rfl
  · rw [refused, Explorer.run_bind_error (Explorer.run_given rfl)]
    exact .inl ⟨message, rfl, rfl⟩

/-- How a request ends that was read. -/
inductive Ended (database : Database) (request : Request) (explorer : Explorer) :
    Except ViewError Value × Explorer → Prop where
  | domainless (missing : explorer.plan? database request.criteria = none) :
      Ended database request explorer
        (.error (.service (Explorer.noDomainMessage explorer.table)), explorer.informed database)
  | unbounded (plan : Explorer.SearchPlan)
      (found : explorer.plan? database request.criteria = some plan) (vast : request.OutOfRange) :
      Ended database request explorer
        (.error (.unhandled (.crash (.number .outOfRange))), explorer.informed database)
  | uncounted (plan : Explorer.SearchPlan)
      (found : explorer.plan? database request.criteria = some plan) (fits : ¬ request.OutOfRange)
      (failure : Failure) (count : database plan.count = .error failure) (message : String)
      (reports : failure.Reports message) :
      Ended database request explorer
        (.error (.service message), (explorer.informed database).noted plan.count)
  | unfetched (plan : Explorer.SearchPlan)
      (found : explorer.plan? database request.criteria = some plan) (fits : ¬ request.OutOfRange)
      (counted : List Row) (count : database plan.count = .ok counted)
      (page : Query.Page) (bounds : Query.Page.clamp request.number request.size = .ok page)
      (failure : Failure) (fetch : database (plan.page page) = .error failure) (message : String)
      (reports : failure.Reports message) :
      Ended database request explorer
        (.error (.service message),
          ((explorer.informed database).noted plan.count).noted (plan.page page))
  | fetched (plan : Explorer.SearchPlan)
      (found : explorer.plan? database request.criteria = some plan) (fits : ¬ request.OutOfRange)
      (counted : List Row) (count : database plan.count = .ok counted) (result : SearchPage)
      (read : readCount counted = .ok result.total)
      (bounds : Query.Page.clamp request.number request.size = .ok result.page)
      (quotient : result.page.total result.total = .ok result.pages)
      (fetch : database (plan.page result.page) = .ok result.rows) :
      Ended database request explorer
        (pageValue result,
          ((explorer.informed database).noted plan.count).noted (plan.page result.page))

theorem ofSearchError_failed {failure : Failure} {message : String}
    (reports : failure.Reports message) : ofSearchError (.failed failure) = .service message := by
  cases reports <;> rfl

section Ends

variable {database : Database} {request : Request} {explorer : Explorer}
  {outcome outcome' : Except ViewError Value × Explorer}

theorem ended (typed : database.Typed) (request : Request) (explorer : Explorer) :
    Ended database request explorer
      ((ExceptT.adapt ofSearchError
            (Explorer.search database request.criteria request.number request.size) >>=
          fun page => ExceptT.mk (pure (pageValue page))).run explorer) := by
  have searched := Explorer.run_search database request.criteria request.number request.size explorer
  cases found : explorer.plan? database request.criteria with
  | none =>
    rw [found] at searched
    rw [Explorer.run_bind_error (Explorer.run_adapt searched)]
    exact .domainless found
  | some plan =>
    rw [found] at searched
    have how := Explorer.fetched typed plan request.number request.size (explorer.informed database)
    generalize run : (Explorer.fetch database plan.table plan.compiled plan.domain request.number
      request.size).run (explorer.informed database) = outcome at how
    cases how with
    | unbounded vast =>
      rw [Explorer.run_bind_error (Explorer.run_adapt (searched.trans (Explorer.run_adapt run)))]
      exact .unbounded plan found vast
    | uncounted fits failure count =>
      obtain ⟨message, reports⟩ := typed.failures _ _ count
      rw [Explorer.run_bind_error (Explorer.run_adapt (searched.trans (Explorer.run_adapt run))),
        ofSearchError_failed reports]
      exact .uncounted plan found fits failure count message reports
    | unfetched fits counted count page bounds failure fetch =>
      obtain ⟨message, reports⟩ := typed.failures _ _ fetch
      rw [Explorer.run_bind_error (Explorer.run_adapt (searched.trans (Explorer.run_adapt run))),
        ofSearchError_failed reports]
      exact .unfetched plan found fits counted count page bounds failure fetch message reports
    | fetched fits counted count result read bounds quotient fetch =>
      rw [Explorer.run_bind_ok (Explorer.run_adapt (searched.trans (Explorer.run_adapt run)))]
      exact .fetched plan found fits counted count result read bounds quotient fetch

/-- A request has one end only. -/
theorem Ended.unique (one : Ended database request explorer outcome)
    (other : Ended database request explorer outcome') : outcome = outcome' := by
  -- Two different ends disagree on the column, on the numbers, or on what was answered.
  cases one with
  | domainless missing =>
    cases other with
    | domainless => rfl
    | unbounded _ found | uncounted _ found | unfetched _ found | fetched _ found =>
      cases missing.symm.trans found
  | unbounded _ found vast =>
    cases other with
    | domainless missing => cases missing.symm.trans found
    | unbounded => rfl
    | uncounted _ _ fits | unfetched _ _ fits | fetched _ _ fits => exact absurd vast fits
  | uncounted _ found fits _ count _ reports =>
    cases other with
    | domainless missing => cases missing.symm.trans found
    | unbounded _ _ vast => exact absurd vast fits
    | uncounted _ found' _ _ count' _ reports' =>
      cases found.symm.trans found'
      cases count.symm.trans count'
      rw [reports.unique reports']
    | unfetched _ found' _ _ count' | fetched _ found' _ _ count' =>
      cases found.symm.trans found'
      cases count.symm.trans count'
  | unfetched _ found fits _ count _ bounds _ fetch _ reports =>
    cases other with
    | domainless missing => cases missing.symm.trans found
    | unbounded _ _ vast => exact absurd vast fits
    | uncounted _ found' _ _ count' =>
      cases found.symm.trans found'
      cases count.symm.trans count'
    | unfetched _ found' _ _ _ _ bounds' _ fetch' _ reports' =>
      cases found.symm.trans found'
      cases bounds.symm.trans bounds'
      cases fetch.symm.trans fetch'
      rw [reports.unique reports']
    | fetched _ found' _ _ _ _ _ bounds' _ fetch' =>
      cases found.symm.trans found'
      cases bounds.symm.trans bounds'
      cases fetch.symm.trans fetch'
  | fetched _ found fits _ count result read bounds quotient fetch =>
    cases other with
    | domainless missing => cases missing.symm.trans found
    | unbounded _ _ vast => exact absurd vast fits
    | uncounted _ found' _ _ count' =>
      cases found.symm.trans found'
      cases count.symm.trans count'
    | unfetched _ found' _ _ _ _ bounds' _ fetch' =>
      cases found.symm.trans found'
      cases bounds.symm.trans bounds'
      cases fetch.symm.trans fetch'
    | fetched _ found' _ _ count' result' read' bounds' quotient' fetch' =>
      obtain ⟨page, total, pages, rows⟩ := result
      obtain ⟨page', total', pages', rows'⟩ := result'
      cases found.symm.trans found'
      cases count.symm.trans count'
      cases read.symm.trans read'
      cases bounds.symm.trans bounds'
      cases quotient.symm.trans quotient'
      cases fetch.symm.trans fetch'
      rfl

/-- Where both statements are answered, the end is what their rows come to. -/
theorem exists_fetched (typed : database.Typed) {plan : Explorer.SearchPlan}
    (found : explorer.plan? database request.criteria = some plan) {page : Query.Page}
    (bounds : Query.Page.clamp request.number request.size = .ok page) {counted : List Row}
    (count : database plan.count = .ok counted) {rows : List Row}
    (fetch : database (plan.page page) = .ok rows) :
    ∃ result : SearchPage, result.rows = rows ∧
      Ended database request explorer
        (pageValue result,
          ((explorer.informed database).noted plan.count).noted (plan.page page)) := by
  obtain ⟨fits, bounded⟩ := Query.Page.fits_of_clamp bounds
  obtain ⟨total, pages, read, quotient⟩ := Explorer.exists_pages typed count bounded
  exact ⟨⟨page, total, pages, rows⟩, rfl,
    .fetched plan found fits counted count ⟨page, total, pages, rows⟩ read bounds quotient fetch⟩

/-- What nobody handles: a number out of range, and a page whose rows do not fit into a response. -/
inductive Unhandled (database : Database) (plan : Explorer.SearchPlan) (request : Request) :
    Failure → Prop where
  | vast (vast : request.OutOfRange) :
      Unhandled database plan request (.crash (.number .outOfRange))
  | deep (page : Query.Page) (bounds : Query.Page.clamp request.number request.size = .ok page)
      (counted : List Row) (count : database plan.count = .ok counted)
      (rows : List Row) (fetch : database (plan.page page) = .ok rows)
      (deep : ¬ ∀ row ∈ rows, Shallow row) :
      Unhandled database plan request (.crash .tooDeep)

/-- A search ends in what nobody handles only where the request or the rows give the cause. -/
theorem Ended.exists_unhandled (ended : Ended database request explorer outcome) {failure : Failure}
    (same : outcome.1 = .error (.unhandled failure)) :
    ∃ plan, explorer.plan? database request.criteria = some plan ∧
      Unhandled database plan request failure := by
  cases ended with
  | domainless | uncounted | unfetched => cases same
  | unbounded plan found vast =>
    cases same
    exact ⟨plan, found, .vast vast⟩
  | fetched plan found fits counted count result read bounds quotient fetch =>
    rcases pageValue_cases result with ⟨-, v, eq⟩ | ⟨deep, eq⟩
    · cases eq.symm.trans same
    · cases eq.symm.trans same
      exact ⟨plan, found, .deep result.page bounds counted count result.rows fetch deep⟩

/-- Where there is a cause, the search ends in it. -/
theorem Ended.of_unhandled (ended : Ended database request explorer outcome)
    (typed : database.Typed) {plan : Explorer.SearchPlan}
    (found : explorer.plan? database request.criteria = some plan) {failure : Failure}
    (unhandled : Unhandled database plan request failure) :
    outcome.1 = .error (.unhandled failure) := by
  cases unhandled with
  | vast vast => rw [ended.unique (.unbounded plan found vast)]
  | deep page bounds counted count rows fetch deep =>
    obtain ⟨result, rfl, fetched⟩ := exists_fetched typed found bounds count fetch
    rw [ended.unique fetched]
    exact (pageValue_cases result).elim (fun fine => absurd fine.1 deep) And.right

end Ends

/-! ### Discipline -/

/-- How a search keeps to its errors. -/
structure Disciplined (database : Database) (body : Value) (explorer : Explorer) : Prop where
  /-- A body that cannot be read is refused, and nothing is asked. -/
  refused : ∀ error, Request.ofBody body = .error error →
    ∃ message, error = .invalid message ∧
      (search database body).run explorer = (.error (.invalid message), explorer)
  /-- Without a column of domains nothing is asked but the catalog. -/
  domainless : ∀ request, Request.ofBody body = .ok request →
    explorer.plan? database request.criteria = none →
      (search database body).run explorer =
        (.error (.service (Explorer.noDomainMessage explorer.table)), explorer.informed database)
  /-- A count that fails is reported, and no page is asked for. -/
  uncounted : ∀ request plan failure, Request.ofBody body = .ok request →
    explorer.plan? database request.criteria = some plan → ¬ request.OutOfRange →
      database plan.count = .error failure →
        ∃ message, failure.Reports message ∧ (search database body).run explorer =
          (.error (.service message), (explorer.informed database).noted plan.count)
  /-- A page that fails is reported. -/
  unfetched : ∀ request plan page counted failure, Request.ofBody body = .ok request →
    explorer.plan? database request.criteria = some plan →
      Query.Page.clamp request.number request.size = .ok page →
        database plan.count = .ok counted → database (plan.page page) = .error failure →
          ∃ message, failure.Reports message ∧ (search database body).run explorer =
            (.error (.service message),
              ((explorer.informed database).noted plan.count).noted (plan.page page))
  /-- A page that is answered makes a response, if its rows fit into one. -/
  answered : ∀ request plan page counted rows, Request.ofBody body = .ok request →
    explorer.plan? database request.criteria = some plan →
      Query.Page.clamp request.number request.size = .ok page →
        database plan.count = .ok counted → database (plan.page page) = .ok rows →
          (∀ row ∈ rows, Shallow row) →
            ∃ response, ((search database body).run explorer).1 = .ok response
  /-- What ends in anything but a response, a refusal or a report has a cause that nobody handles. -/
  unhandled : ∀ failure, ((search database body).run explorer).1 = .error (.unhandled failure) ↔
    ∃ request plan, Request.ofBody body = .ok request ∧
      explorer.plan? database request.criteria = some plan ∧
        Unhandled database plan request failure

/-- Searches in a typed database keep to their errors, whatever is sent and whatever is kept. -/
theorem disciplined {database : Database} (typed : database.Typed) (body : Value)
    (explorer : Explorer) : Disciplined database body explorer := by
  rcases run_search database body explorer with ⟨message, refused, run⟩ | ⟨request, read, run⟩
  · -- What is said of requests that were read is empty here.
    have unread (request : Request) : Request.ofBody body ≠ .ok request := by
      rw [refused]
      nofun
    constructor
    case refused => exact fun _ same => ⟨message, Except.error.inj (same.symm.trans refused), run⟩
    case domainless => exact fun request read => absurd read (unread request)
    case uncounted => exact fun request _ _ read => absurd read (unread request)
    case unfetched => exact fun request _ _ _ _ read => absurd read (unread request)
    case answered => exact fun request _ _ _ _ read => absurd read (unread request)
    case unhandled =>
      intro failure
      rw [run]
      constructor
      · intro same
        cases same
      · rintro ⟨request, -, read, -⟩
        exact absurd read (unread request)
  · have how := ended typed request explorer
    rw [← run] at how
    constructor
    case refused =>
      intro error refused
      cases read.symm.trans refused
    case domainless =>
      intro request' read' missing
      cases read.symm.trans read'
      exact how.unique (.domainless missing)
    case uncounted =>
      intro request' plan failure read' found fits count
      cases read.symm.trans read'
      obtain ⟨message, reports⟩ := typed.failures _ _ count
      exact ⟨message, reports, how.unique (.uncounted plan found fits failure count message reports)⟩
    case unfetched =>
      intro request' plan page counted failure read' found bounds count fetch
      cases read.symm.trans read'
      obtain ⟨message, reports⟩ := typed.failures _ _ fetch
      have fits := (Query.Page.fits_of_clamp bounds).1
      exact ⟨message, reports, how.unique
        (.unfetched plan found fits counted count page bounds failure fetch message reports)⟩
    case answered =>
      intro request' plan page counted rows read' found bounds count fetch shallow
      cases read.symm.trans read'
      obtain ⟨result, rfl, fetched⟩ := exists_fetched typed found bounds count fetch
      rw [how.unique fetched]
      exact (pageValue_cases result).elim And.right fun deep => absurd shallow deep.1
    case unhandled =>
      intro failure
      constructor
      · intro same
        obtain ⟨plan, found, cause⟩ := how.exists_unhandled same
        exact ⟨request, plan, read, found, cause⟩
      · rintro ⟨request', plan, read', found, cause⟩
        cases read.symm.trans read'
        exact how.of_unhandled typed found cause

/-- A database whose table has a column of domains and three rows. -/
def threeDomains : Database := fun statement =>
  match statement.kind with
  | .columns =>
    .ok [[("column_name", .text "domain"), ("data_type", .text "VARCHAR"),
      ("ordinal_position", .int 1)]]
  | .count => .ok [[("total", .int 3)]]
  | .rows => .ok [[("domain", .text "a.com")], [("domain", .text "b.com")], [("domain", .text "c.com")]]
  | .details | .tables | .distinct => .ok []

theorem typed_threeDomains : threeDomains.Typed := by
  constructor
  case failures =>
    intro statement failure failed
    unfold threeDomains at failed
    split at failed <;> cases failed
  case counts =>
    intro statement rows kind answered
    rw [threeDomains, kind] at answered
    cases answered
    exact fun row member => List.mem_singleton.mp member ▸ .inr ⟨3, by decide, rfl⟩

theorem disciplined_threeDomains :
    threeDomains.Typed ∧
      Disciplined threeDomains
        (.object [("criteria", .object [("domainStartsWith", .text "shop")]), ("page", .text "2"),
          ("pageSize", .int (10 ^ 400))])
        (.new "expired_domains" "main") :=
  ⟨typed_threeDomains, disciplined typed_threeDomains _ _⟩

/-- A page number of four hundred zeros ends the search with a failure that nobody handles. -/
theorem unhandled_of_vast_page :
    threeDomains.Typed ∧
      ((search threeDomains (.object [("page", .int (10 ^ 400))])).run
          (.new "expired_domains" "main")).1 =
        .error (.unhandled (.crash (.number .outOfRange))) := by
  refine ⟨typed_threeDomains, ?_⟩
  -- The search is not run: the cause is evaluated, and the search ends in it.
  let explorer := Explorer.new "expired_domains" "main"
  have hosts : (explorer.plan? threeDomains .unfiltered).isSome = true := by decide +kernel
  have vast : Value.vast ≤ (10 ^ 400 : Int).natAbs := by decide +kernel
  obtain ⟨plan, found⟩ := Option.isSome_iff_exists.mp hosts
  rcases run_search threeDomains (.object [("page", .int (10 ^ 400))]) explorer with
    ⟨message, refused, -⟩ | ⟨request, read, run⟩
  · cases refused
  · cases read
    rw [run]
    exact (ended typed_threeDomains _ explorer).of_unhandled typed_threeDomains found
      (.vast (.inl vast))

end DomainScout.View
