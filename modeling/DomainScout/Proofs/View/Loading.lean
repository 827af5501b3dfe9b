import DomainScout.Proofs.Last
import DomainScout.Proofs.Readings
import DomainScout.Proofs.View.Capabilities
import DomainScout.Proofs.View.Search

/-!
# When the catalog is loaded

Searches and capabilities go by one catalog. The first of them loads it, and from then on it is kept:
whatever becomes of the table, only a refresh loads it again. A catalog that cannot be loaded is empty
and kept like any other.

Main statements: `keeps_after`, `LoadFails.loaded_eq`, `memoized_after`.
-/
namespace DomainScout

/-! ### Work that leaves the catalog alone -/

namespace Explorer

variable {ε ε' α β : Type}

/-- Statements that do not ask for the catalog. -/
def Other (statements : List Statement) : Prop := ∀ statement ∈ statements, statement.kind ≠ .columns

/-- Work that does not ask for the catalog and leaves the one that is kept. -/
def Quiet (step : Exploring ε α) : Prop :=
  ∀ explorer, ∃ others, Other others ∧
    (step.run explorer).2 = { explorer with asked := explorer.asked ++ others }

namespace Quiet

theorem given (result : Except ε α) : Quiet (ExceptT.mk (pure result) : Exploring ε α) := by
  intro explorer
  refine ⟨[], nofun, ?_⟩
  rw [run_given rfl, List.append_nil]

theorem get : Quiet (MonadState.get : Exploring ε Explorer) := by
  intro explorer
  refine ⟨[], nofun, ?_⟩
  rw [List.append_nil]
  rfl

theorem ask (database : Database) {statement : Statement} (other : statement.kind ≠ .columns) :
    Quiet (ask database statement) := by
  intro explorer
  refine ⟨[statement], ?_, ?_⟩
  · simpa [Other] using other
  · rw [run_ask rfl]
    rfl

variable {step : Exploring ε α} {next : α → Exploring ε β}

theorem bind (first : Quiet step) (others : ∀ a, Quiet (next a)) : Quiet (step >>= next) := by
  intro explorer
  obtain ⟨asked, quiet, moved⟩ := first explorer
  -- What is asked next is asked only if the first step comes to a result.
  rcases run : step.run explorer with ⟨result, after⟩
  rw [run] at moved
  cases result with
  | error error =>
    rw [run_bind_error run]
    exact ⟨asked, quiet, moved⟩
  | ok a =>
    obtain ⟨more, quiet', moved'⟩ := others a after
    refine ⟨asked ++ more, ?_, ?_⟩
    · exact List.forall_mem_append.mpr ⟨quiet, quiet'⟩
    · rw [run_bind_ok run, moved']
      cases moved
      rw [List.append_assoc]

theorem adapt (quiet : Quiet step) (f : ε → ε') : Quiet (ExceptT.adapt f step) := by
  intro explorer
  obtain ⟨asked, others, moved⟩ := quiet explorer
  refine ⟨asked, others, ?_⟩
  rw [run_adapt (Prod.mk.eta).symm]
  exact moved

theorem sample (database : Database) (ref : TableRef) (column : String) :
    Quiet (sample database ref column : Exploring ε (List Value)) := by
  intro explorer
  obtain ⟨values, run⟩ := View.run_sample (ε := ε) database ref column explorer
  refine ⟨[distinctStatement ref column], by simp [Other, distinctStatement], ?_⟩
  rw [run]
  rfl

theorem tables (database : Database) : Quiet (tables database) :=
  (ask database (nofun : StatementKind.tables ≠ .columns)).bind fun _ => given _

theorem columns (database : Database) (ref : TableRef) : Quiet (columns database ref) :=
  (ask database (nofun : StatementKind.details ≠ .columns)).bind fun _ => given _

theorem fetch (database : Database) (ref : TableRef) (compiled : Query.Compiled) (order : String)
    (number size : Value) : Quiet (fetch database ref compiled order number size) := by
  refine (given _).bind fun page => ?_
  refine (ask database (nofun : StatementKind.count ≠ .columns)).bind fun counted => ?_
  refine (given _).bind fun total => ?_
  refine (ask database (nofun : StatementKind.rows ≠ .columns)).bind fun rows => ?_
  exact (given _).bind fun pages => given _

end Quiet

/-! ### Work that goes by a catalog -/

/-- Search by a catalog that is at hand. -/
def searchBy (catalog : Catalog) (ref : TableRef) (database : Database) (criteria : Criteria)
    (number size : Value) : Exploring SearchError SearchPage :=
  let target := Query.Target.ofCatalog catalog
  match target.roles.column? .domain with
  | none => throw (.noDomain ref)
  | some domain =>
    ExceptT.adapt .failed
      (Explorer.fetch database ref (Query.compile criteria target) domain number size)

theorem quiet_searchBy (catalog : Catalog) (ref : TableRef) (database : Database)
    (criteria : Criteria) (number size : Value) :
    Quiet (searchBy catalog ref database criteria number size) := by
  unfold searchBy
  dsimp only
  split
  · exact .given _
  · exact (Quiet.fetch database ref _ _ number size).adapt _

section Congr

variable {explorer explorer' : Explorer} {step step' : Exploring ε α}
  (same : step.run explorer = step'.run explorer')
include same

/-- What two steps end in alike goes on alike. -/
theorem run_bind_congr (next : α → Exploring ε β) :
    (step >>= next).run explorer = (step' >>= next).run explorer' := by
  rcases run : step'.run explorer' with ⟨result, after⟩
  rw [run] at same
  cases result with
  | error error => rw [run_bind_error same, run_bind_error run]
  | ok a => rw [run_bind_ok same, run_bind_ok run]

theorem run_adapt_congr (f : ε → ε') :
    (ExceptT.adapt f step).run explorer = (ExceptT.adapt f step').run explorer' := by
  rcases run : step'.run explorer' with ⟨result, after⟩
  rw [run] at same
  rw [run_adapt same, run_adapt run]

end Congr

theorem run_search_eq (database : Database) (criteria : Criteria) (number size : Value)
    (explorer : Explorer) :
    (search database criteria number size).run explorer =
      (searchBy (explorer.inForce database) explorer.table database criteria number size).run
        (explorer.informed database) := by
  unfold search searchBy
  rw [run_bind_ok (run_current database explorer)]
  generalize Query.Target.ofCatalog (explorer.inForce database) = target
  dsimp only
  rw [run_bind_ok run_get]
  rfl

end Explorer

namespace View

open Explorer (Other Quiet loaded)

/-- Answer a search by a catalog that is at hand. -/
def searchBy (catalog : Catalog) (ref : TableRef) (database : Database) (request : Request) :
    Exploring ViewError Value := do
  let page ← ExceptT.adapt ofSearchError
    (Explorer.searchBy catalog ref database request.criteria request.number request.size)
  ExceptT.mk (pure (pageValue page))

/-- Find out what a table supports by a catalog that is at hand. -/
def discoverBy {ε : Type} (catalog : Catalog) (ref : TableRef) (database : Database) :
    Exploring ε Capabilities := do
  let roles := RoleMap.resolve catalog
  let statusValues ← match roles.column? .status with
    | some column => Explorer.sample database ref column
    | none => pure []
  return ⟨ref, catalog, roles, statusValues⟩

/-- Tell what a table supports by a catalog that is at hand. -/
def capabilitiesBy (catalog : Catalog) (ref : TableRef) (database : Database) :
    Exploring ViewError Value := do
  let found ← discoverBy catalog ref database
  ExceptT.mk (pure found.value)

theorem quiet_searchBy (catalog : Catalog) (ref : TableRef) (database : Database)
    (request : Request) : Quiet (searchBy catalog ref database request) :=
  ((Explorer.quiet_searchBy catalog ref database _ _ _).adapt _).bind fun _ => .given _

theorem quiet_capabilitiesBy (catalog : Catalog) (ref : TableRef) (database : Database) :
    Quiet (capabilitiesBy catalog ref database) := by
  unfold capabilitiesBy discoverBy
  refine .bind ?_ fun found => .given _
  dsimp only
  split
  · exact (Quiet.sample database ref _).bind fun values => .given _
  · exact (Quiet.given (.ok [])).bind fun values => .given _

variable {database : Database} {explorer : Explorer}

theorem run_search_of_read {body : Value} {request : Request}
    (read : Request.ofBody body = .ok request) :
    (search database body).run explorer =
      (searchBy (explorer.inForce database) explorer.table database request).run
        (explorer.informed database) := by
  rcases run_search database body explorer with ⟨message, refused, -⟩ | ⟨request', read', run⟩
  · cases read.symm.trans refused
  · cases read.symm.trans read'
    rw [run]
    apply Explorer.run_bind_congr
    apply Explorer.run_adapt_congr
    exact Explorer.run_search_eq ..

theorem run_capabilities (database : Database) (explorer : Explorer) :
    (capabilities database).run explorer =
      (capabilitiesBy (explorer.inForce database) explorer.table database).run
        (explorer.informed database) := by
  apply Explorer.run_bind_congr
  unfold discover discoverBy
  rw [Explorer.run_bind_ok (Explorer.run_current database explorer)]
  generalize explorer.inForce database = catalog
  dsimp only
  rw [Explorer.run_bind_ok Explorer.run_get]
  rfl

/-! ### Calls -/

/-- A call to the views over the catalog. -/
inductive Call where
  | search (body : Value)
  | capabilities
  | tables
  | columns (ref : Value)
  | health
  | refresh

/-- Answer a call. -/
def Call.perform (database : Database) : Call → Exploring ViewError Value
  | search body => View.search database body
  | capabilities => View.capabilities database
  | tables => View.tables database
  | columns ref => View.columns database ref
  | health => pure View.health
  | refresh => View.refresh database

/-- The call goes by the catalog: a search whose criteria can be read, or a question for what the
table supports. -/
inductive Call.Consults : Call → Prop
  | search {body : Value} {request : Request} (read : Request.ofBody body = .ok request) :
      Consults (.search body)
  | capabilities : Consults .capabilities

/-- The call needs a catalog, or loads one anyway. -/
def Call.NeedsCatalog (call : Call) : Prop := call = .refresh ∨ call.Consults

/-- A call, and the database as it was then. -/
structure Visit where
  call : Call
  database : Database

/-- What a visit ends in. -/
def Visit.run (visit : Visit) (explorer : Explorer) : Except ViewError Value × Explorer :=
  (visit.call.perform visit.database).run explorer

/-- The explorer after some visits. -/
def after (explorer : Explorer) (visits : List Visit) : Explorer :=
  visits.foldl (fun explorer visit => (visit.run explorer).2) explorer

/-- After some visits another one loads the catalog: it refreshes it, or it is the first to need
it. -/
def Loads (before : List Visit) (visit : Visit) : Prop :=
  visit.call = .refresh ∨
    visit.call.Consults ∧ ∀ earlier ∈ before, ¬ earlier.call.NeedsCatalog

/-- The visit is the last of a history that loaded the catalog. -/
def LastLoad (history : List Visit) (loader : Visit) : Prop :=
  ∃ before, Loads before loader ∧ Last (·.call ≠ .refresh) before loader history

theorem lastLoad_snoc {history : List Visit} {visit loader : Visit} :
    LastLoad (history ++ [visit]) loader ↔
      (loader = visit ∧ Loads history visit) ∨ visit.call ≠ .refresh ∧ LastLoad history loader := by
  simp only [LastLoad, last_snoc]
  constructor
  · rintro ⟨before, loads, ⟨rfl, rfl⟩ | ⟨spares, last⟩⟩
    · exact .inl ⟨rfl, loads⟩
    · exact .inr ⟨spares, before, loads, last⟩
  · rintro (⟨rfl, loads⟩ | ⟨spares, before, loads, last⟩)
    · exact ⟨history, loads, .inl ⟨rfl, rfl⟩⟩
    · exact ⟨before, loads, .inr ⟨spares, last⟩⟩

/-- A call that goes by the catalog without loading it is not the first to need it. -/
theorem exists_earlier {before : List Visit} {visit : Visit} (consults : visit.call.Consults)
    (late : ¬ Loads before visit) : ∃ earlier ∈ before, earlier.call.NeedsCatalog := by
  by_contra none
  refine late (.inr ⟨consults, ?_⟩)
  intro earlier known needs
  exact none ⟨earlier, known, needs⟩

/-- A call that needs a catalog loads it or finds one that was loaded before. -/
theorem exists_lastLoad {history : List Visit}
    (needed : ∃ visit ∈ history, visit.call.NeedsCatalog) : ∃ loader, LastLoad history loader := by
  induction history using List.reverseRecOn with
  | nil => simp at needed
  | append_singleton history visit ih =>
    by_cases loads : Loads history visit
    · exact ⟨visit, lastLoad_snoc.mpr (.inl ⟨rfl, loads⟩)⟩
    · have kept : visit.call ≠ .refresh := fun refresh => loads (.inl refresh)
      -- Either an earlier call needed a catalog, or this one did and was not the first.
      have earlier : ∃ visit ∈ history, visit.call.NeedsCatalog := by
        obtain ⟨other, member, needs⟩ := needed
        rcases List.mem_append.mp member with known | added
        · exact ⟨other, known, needs⟩
        · cases List.mem_singleton.mp added
          exact exists_earlier (needs.resolve_left kept) loads
      obtain ⟨loader, last⟩ := ih earlier
      exact ⟨loader, lastLoad_snoc.mpr (.inr ⟨kept, last⟩)⟩

/-! ### One visit -/

/-- A call that needs no catalog does not ask for one. -/
theorem quiet_perform {call : Call} (apart : ¬ call.NeedsCatalog) (database : Database) :
    Quiet (call.perform database) := by
  cases call with
  | search body =>
    intro explorer
    rcases run_search database body explorer with ⟨message, -, run⟩ | ⟨request, read, -⟩
    · refine ⟨[], nofun, ?_⟩
      rw [Call.perform, run, List.append_nil]
    · exact absurd (.inr (.search read)) apart
  | capabilities => exact absurd (.inr .capabilities) apart
  | refresh => exact absurd (.inl rfl) apart
  | health => exact .given _
  | tables =>
    refine ((Quiet.tables database).adapt _).bind fun listed => ?_
    exact (Quiet.given _).bind fun items => .given _
  | columns ref =>
    refine Quiet.get.bind fun explorer => ?_
    refine ((Quiet.columns database _).adapt _).bind fun details => ?_
    exact (Quiet.given _).bind fun items => .given _

/-- The explorer after the catalog was loaded again. -/
def reloaded (explorer : Explorer) (database : Database) : Explorer :=
  { explorer.noted (columnsStatement explorer.table) with
    catalog := some (loaded database explorer.table) }

theorem run_refresh (database : Database) (explorer : Explorer) :
    (refresh database).run explorer =
      (.ok (.list ((loaded database explorer.table).names.map .text)), reloaded explorer database) :=
  rfl

/-- A call that goes by the catalog goes by the one in force, and asks for nothing more. -/
theorem run_of_consults {visit : Visit} (consults : visit.call.Consults) (explorer : Explorer) :
    ∃ others, Other others ∧
      (visit.run explorer).2 =
        { explorer.informed visit.database with
          asked := explorer.asked ++ explorer.metadata ++ others } := by
  obtain ⟨call, database⟩ := visit
  cases consults with
  | search read =>
    rw [Visit.run, Call.perform, run_search_of_read read]
    exact quiet_searchBy _ _ database _ (explorer.informed database)
  | capabilities =>
    rw [Visit.run, Call.perform, run_capabilities]
    exact quiet_capabilitiesBy _ _ database (explorer.informed database)

/-! ### Many visits -/

/-- After a history an explorer keeps the catalog that was loaded last. -/
structure Keeps (ref : TableRef) (history : List Visit) (explorer : Explorer) : Prop where
  table : explorer.table = ref
  unloaded : (∀ visit ∈ history, ¬ visit.call.NeedsCatalog) → explorer.catalog = none
  kept : ∀ loader, LastLoad history loader →
    explorer.catalog = some (loaded loader.database ref)

namespace Keeps

variable {ref : TableRef} {history : List Visit} {visit loader : Visit}

theorem new (table schema : String) : Keeps (.parse table schema) [] (.new table schema) where
  table := rfl
  unloaded _ := rfl
  kept loader last := by
    obtain ⟨before, -, last⟩ := last
    exact absurd last not_last_nil

variable (keeps : Keeps ref history explorer)
include keeps

/-- A call that goes by the catalog goes by the one that was loaded last, be it by the call itself. -/
theorem inForce_eq (consults : visit.call.Consults) (last : LastLoad (history ++ [visit]) loader) :
    explorer.inForce visit.database = loaded loader.database ref := by
  unfold Explorer.inForce
  rcases lastLoad_snoc.mp last with ⟨rfl, refresh | ⟨-, first⟩⟩ | ⟨-, last⟩
  · rw [refresh] at consults
    nomatch consults
  · rw [keeps.unloaded first, keeps.table]
    rfl
  · rw [keeps.kept loader last]
    rfl

theorem step (visit : Visit) : Keeps ref (history ++ [visit]) (visit.run explorer).2 := by
  have needs : visit.call.NeedsCatalog →
      ¬ ∀ other ∈ history ++ [visit], ¬ other.call.NeedsCatalog := by
    intro needs none
    exact none visit (by simp) needs
  -- A visit loads the catalog anyway, goes by one, or leaves it alone.
  by_cases refresh : visit.call = .refresh
  · have run : (visit.run explorer).2 = reloaded explorer visit.database := by
      rw [Visit.run, refresh]
      rfl
    rw [run]
    refine ⟨keeps.table, fun none => absurd none (needs (.inl refresh)), ?_⟩
    intro loader last
    rcases lastLoad_snoc.mp last with ⟨rfl, -⟩ | ⟨kept, -⟩
    · rw [reloaded, keeps.table]
    · exact absurd refresh kept
  by_cases consults : visit.call.Consults
  · obtain ⟨others, -, moved⟩ := run_of_consults consults explorer
    rw [moved]
    refine ⟨keeps.table, fun none => absurd none (needs (.inr consults)), ?_⟩
    intro loader last
    exact congrArg some (keeps.inForce_eq consults last)
  · have apart : ¬ visit.call.NeedsCatalog := not_or.mpr ⟨refresh, consults⟩
    obtain ⟨others, -, moved⟩ := quiet_perform apart visit.database explorer
    rw [Visit.run, moved]
    refine ⟨keeps.table, ?_, ?_⟩
    · intro none
      exact keeps.unloaded fun other member => none other (List.mem_append_left _ member)
    · intro loader last
      rcases lastLoad_snoc.mp last with ⟨-, loads⟩ | ⟨-, last⟩
      · exact absurd (loads.imp_right And.left) apart
      · exact keeps.kept loader last

end Keeps

theorem keeps_after (table schema : String) (history : List Visit) :
    Keeps (.parse table schema) history (after (.new table schema) history) := by
  induction history using List.reverseRecOn with
  | nil => exact .new table schema
  | append_singleton history visit ih =>
    rw [after, List.foldl_append]
    exact ih.step visit

/-! ### Loads that fail -/

/-- What a row of the catalog must have. -/
def requiredCells : List String := ["column_name", "data_type", "ordinal_position"]

/-- The catalog cannot be loaded: the database fails, a row lacks something, or a row cannot be read
for some other reason. -/
inductive LoadFails (database : Database) (ref : TableRef) : Prop
  | query {failure : Failure} (answer : database (columnsStatement ref) = .error failure)
  | row {rows : List Row} (answer : database (columnsStatement ref) = .ok rows) {row : Row}
      (member : row ∈ rows) {name : String} (required : name ∈ requiredCells)
      (lacks : Value.lookup? name row = none)
  | reading {rows : List Row} (answer : database (columnsStatement ref) = .ok rows)
      {failure : Failure} (failed : readCatalog rows = .error failure)

theorem cell_eq_error {row : Row} {name : String} (lacks : Value.lookup? name row = none) :
    row.cell name = .error (.crash .missingField) := by
  rw [Row.cell, lacks]

theorem readColumn_fails {row : Row} {name : String} (required : name ∈ requiredCells)
    (lacks : Value.lookup? name row = none) : ∃ failure, readColumn row = .error failure := by
  have missing := cell_eq_error lacks
  unfold readColumn Row.intCell
  simp only [requiredCells, List.mem_cons, List.not_mem_nil, or_false] at required
  -- The cells are read one after the other, and one that was read before may have failed already.
  rcases required with rfl | rfl | rfl
  · exact ⟨_, by rw [missing]; rfl⟩
  · cases row.cell "column_name" with
    | error failure => exact ⟨failure, rfl⟩
    | ok => exact ⟨_, by rw [missing]; rfl⟩
  · cases row.cell "column_name" with
    | error failure => exact ⟨failure, rfl⟩
    | ok =>
      cases row.cell "data_type" with
      | error failure => exact ⟨failure, rfl⟩
      | ok => exact ⟨_, by rw [missing]; rfl⟩

theorem readCatalog_fails {rows : List Row} {row : Row} (member : row ∈ rows) {name : String}
    (required : name ∈ requiredCells) (lacks : Value.lookup? name row = none) :
    ∃ failure, readCatalog rows = .error failure := by
  obtain ⟨failure, failed⟩ := mapM_fails member (readColumn_fails required lacks)
  refine ⟨failure, ?_⟩
  rw [readCatalog, failed]
  rfl

theorem loaded_eq_empty {ref : TableRef} {failure : Failure}
    (failed : database (columnsStatement ref) >>= readCatalog = .error failure) :
    loaded database ref = .empty := by
  rw [loaded, failed]

/-- Whatever part of the catalog could be read, none of it is kept if the rest could not. -/
theorem LoadFails.loaded_eq {ref : TableRef} (fails : LoadFails database ref) :
    loaded database ref = .empty := by
  have reads {rows : List Row} (answer : database (columnsStatement ref) = .ok rows) :
      database (columnsStatement ref) >>= readCatalog = readCatalog rows := by
    rw [answer]
    rfl
  cases fails with
  | query answer => exact loaded_eq_empty (congrArg (· >>= readCatalog) answer)
  | reading answer failed => exact loaded_eq_empty ((reads answer).trans failed)
  | row answer member required lacks =>
    obtain ⟨failure, failed⟩ := readCatalog_fails member required lacks
    exact loaded_eq_empty ((reads answer).trans failed)

theorem run_searchBy_empty (ref : TableRef) (database : Database) (request : Request) :
    (searchBy .empty ref database request).run explorer =
      (.error (.service (Explorer.noDomainMessage ref)), explorer) := rfl

theorem run_capabilitiesBy_empty (ref : TableRef) (database : Database) :
    ∃ response, (capabilitiesBy .empty ref database).run explorer = (.ok response, explorer) :=
  ⟨_, rfl⟩

/-! ### Whole runs -/

/-- How a visit goes after some others. -/
structure Memoized (ref : TableRef) (before : List Visit) (visit : Visit) (explorer : Explorer) :
    Prop where
  /-- A visit that loads the catalog asks for it once, and first of all. -/
  loads : Loads before visit → ∃ others, Other others ∧
    (visit.run explorer).2.asked = explorer.asked ++ columnsStatement ref :: others
  /-- No other visit asks for it. -/
  spares : ¬ Loads before visit → ∃ others, Other others ∧
    (visit.run explorer).2.asked = explorer.asked ++ others
  /-- What needs a catalog finds one, or loads it. -/
  served : visit.call.NeedsCatalog → ∃ loader, LastLoad (before ++ [visit]) loader
  /-- The catalog that was loaded last is kept. -/
  keeps : ∀ loader, LastLoad (before ++ [visit]) loader →
    (visit.run explorer).2.catalog = some (loaded loader.database ref)
  /-- A search goes by the catalog that was loaded last. -/
  search : ∀ loader body request, LastLoad (before ++ [visit]) loader →
    visit.call = .search body → Request.ofBody body = .ok request →
    visit.run explorer =
      (searchBy (loaded loader.database ref) ref visit.database request).run
        (explorer.informed visit.database)
  /-- Capabilities go by the same catalog. -/
  capabilities : ∀ loader, LastLoad (before ++ [visit]) loader →
    visit.call = .capabilities →
    visit.run explorer =
      (capabilitiesBy (loaded loader.database ref) ref visit.database).run
        (explorer.informed visit.database)
  refresh : visit.call = .refresh →
    (visit.run explorer).1 = .ok (.list ((loaded visit.database ref).names.map .text))
  /-- Where the load failed the catalog is empty. The failure itself is told to nobody: only a search
  fails, and for the column that it misses. -/
  failed : ∀ loader, LastLoad (before ++ [visit]) loader → LoadFails loader.database ref →
    (visit.run explorer).2.catalog = some .empty ∧
      (visit.call = .refresh → (visit.run explorer).1 = .ok (.list [])) ∧
      (visit.call = .capabilities → ∃ response, (visit.run explorer).1 = .ok response) ∧
      ∀ body request, visit.call = .search body → Request.ofBody body = .ok request →
        (visit.run explorer).1 = .error (.service (Explorer.noDomainMessage ref))

section Memoized

variable {ref : TableRef} {before : List Visit} {visit loader : Visit}
  (keeps : Keeps ref before explorer)
include keeps

theorem Keeps.run_search {body : Value} {request : Request}
    (last : LastLoad (before ++ [visit]) loader) (call : visit.call = .search body)
    (read : Request.ofBody body = .ok request) :
    visit.run explorer =
      (searchBy (loaded loader.database ref) ref visit.database request).run
        (explorer.informed visit.database) := by
  have inForce := keeps.inForce_eq (call ▸ .search read) last
  rw [Visit.run, call, Call.perform, run_search_of_read read, inForce, keeps.table]

theorem Keeps.run_capabilities (last : LastLoad (before ++ [visit]) loader)
    (call : visit.call = .capabilities) :
    visit.run explorer =
      (capabilitiesBy (loaded loader.database ref) ref visit.database).run
        (explorer.informed visit.database) := by
  have inForce := keeps.inForce_eq (call ▸ .capabilities) last
  rw [Visit.run, call, Call.perform, View.run_capabilities, inForce, keeps.table]

theorem Keeps.run_refresh (call : visit.call = .refresh) :
    visit.run explorer = (.ok (.list ((loaded visit.database ref).names.map .text)),
      reloaded explorer visit.database) := by
  rw [Visit.run, call, Call.perform, View.run_refresh, keeps.table]

theorem Keeps.metadata_eq (consults : visit.call.Consults) :
    (Loads before visit → explorer.metadata = [columnsStatement ref]) ∧
      (¬ Loads before visit → explorer.metadata = []) := by
  unfold Explorer.metadata
  constructor
  · intro loads
    rcases loads with refresh | ⟨-, first⟩
    · rw [refresh] at consults
      nomatch consults
    · rw [keeps.unloaded first, keeps.table]
      rfl
  · intro late
    obtain ⟨loader, last⟩ := exists_lastLoad (exists_earlier consults late)
    rw [keeps.kept loader last]
    rfl

theorem Keeps.memoized : Memoized ref before visit explorer where
  loads loads := by
    by_cases refresh : visit.call = .refresh
    · refine ⟨[], nofun, ?_⟩
      rw [keeps.run_refresh refresh]
      exact congrArg (fun table => explorer.asked ++ [columnsStatement table]) keeps.table
    · have consults := (loads.resolve_left refresh).1
      obtain ⟨others, quiet, moved⟩ := run_of_consults consults explorer
      refine ⟨others, quiet, ?_⟩
      rw [moved, (keeps.metadata_eq consults).1 loads, List.append_assoc]
      rfl
  spares late := by
    by_cases consults : visit.call.Consults
    · obtain ⟨others, quiet, moved⟩ := run_of_consults consults explorer
      refine ⟨others, quiet, ?_⟩
      rw [moved, (keeps.metadata_eq consults).2 late, List.append_nil]
    · have apart : ¬ visit.call.NeedsCatalog :=
        not_or.mpr ⟨fun refresh => late (.inl refresh), consults⟩
      obtain ⟨others, quiet, moved⟩ := quiet_perform apart visit.database explorer
      refine ⟨others, quiet, ?_⟩
      rw [Visit.run, moved]
  served needs := exists_lastLoad ⟨visit, by simp, needs⟩
  keeps := (keeps.step visit).kept
  search _ _ _ last call read := keeps.run_search last call read
  capabilities _ last call := keeps.run_capabilities last call
  refresh call := by rw [keeps.run_refresh call]
  failed loader last fails := by
    have empty := fails.loaded_eq
    refine ⟨?_, ?_, ?_, ?_⟩
    · rw [(keeps.step visit).kept loader last, empty]
    · intro call
      -- A refresh is its own last load.
      rcases lastLoad_snoc.mp last with ⟨rfl, -⟩ | ⟨kept, -⟩
      · rw [keeps.run_refresh call, empty]
        rfl
      · exact absurd call kept
    · intro call
      rw [keeps.run_capabilities last call, empty]
      obtain ⟨response, run⟩ := run_capabilitiesBy_empty ref visit.database
      exact ⟨response, congrArg Prod.fst run⟩
    · intro body request call read
      rw [keeps.run_search last call read, empty, run_searchBy_empty]

end Memoized

/-- Whatever was asked before, and whatever became of the database in between, the catalog is loaded
when it is first needed and when it is refreshed, and kept until it is refreshed again. -/
theorem memoized_after (table schema : String) (before : List Visit) (visit : Visit) :
    Memoized (.parse table schema) before visit (after (.new table schema) before) :=
  (keeps_after table schema before).memoized

example :
    let fails : Database := fun _ => .error (.query "locked")
    let visits := [⟨.capabilities, fails⟩, ⟨.search .null, threeDomains⟩, ⟨.capabilities, threeDomains⟩]
    (after (.new "expired_domains" "main") visits).asked =
      [columnsStatement ⟨"main", "expired_domains"⟩] := rfl

end View

end DomainScout
