import DomainScout.Proofs.View.Loading

/-!
# Discovering what a table supports

What a table supports is told whatever the database does. Without a catalog nothing is supported and
nothing else is asked for; without a sample of the states only the sample is missing. Which families
are supported can be told from the columns that were picked, so the two never disagree.

Main statement: `discovery_degrades`.
-/
namespace DomainScout

/-! ### Databases of texts -/

/-- What a row holds under a name, if it holds anything there, is a text or nothing. -/
def Row.HoldsText (row : Row) (name : String) : Prop :=
  ∀ v, Value.lookup? name row = some v → ∃ text, v = .ofText? text

/-- A database whose columns for texts hold texts or nothing. Its rows may lack any of them, and it may
fail in any way. -/
structure Database.Textual (database : Database) : Prop where
  catalog : ∀ statement rows, statement.kind = .columns → database statement = .ok rows →
    ∀ row ∈ rows, ∀ name ∈ ["column_name", "data_type", "udt_name"], row.HoldsText name
  sample : ∀ statement rows, statement.kind = .distinct → database statement = .ok rows →
    ∀ row ∈ rows, row.HoldsText "v"

/-- The values of a column cannot be sampled: the database fails, or a row lacks the value. -/
inductive SampleFails (database : Database) (ref : TableRef) (column : String) : Prop
  | query {failure : Failure} (answer : database (distinctStatement ref column) = .error failure)
  | row {rows : List Row} (answer : database (distinctStatement ref column) = .ok rows) {row : Row}
      (member : row ∈ rows) (lacks : Value.lookup? "v" row = none)

theorem lookup?_of_cell {row : Row} {name : String} {v : Value} (cell : row.cell name = .ok v) :
    Value.lookup? name row = some v := by
  unfold Row.cell at cell
  cases found : Value.lookup? name row with
  | none =>
    rw [found] at cell
    cases cell
  | some w =>
    rw [found] at cell
    cases cell
    rfl

theorem orElse_ofText? (one other : Option String) :
    ∃ text, (Value.ofText? one).orElse (.ofText? other) = .ofText? text := by
  unfold Value.orElse
  split
  · exact ⟨one, rfl⟩
  · exact ⟨other, rfl⟩

theorem cellOrNull_eq_ofText? {row : Row} {name : String} (holds : row.HoldsText name) :
    ∃ text, row.cellOrNull name = .ofText? text := by
  unfold Row.cellOrNull
  cases found : Value.lookup? name row with
  | none => exact ⟨none, rfl⟩
  | some v => exact holds v found

/-- The underlying type of a column is a text, or it is not known. -/
theorem underlying_of_readColumn {row : Row} {column : Column}
    (texts : ∀ name ∈ ["column_name", "data_type", "udt_name"], row.HoldsText name)
    (reads : readColumn row = .ok column) : ∃ text, column.underlying = .ofText? text := by
  unfold readColumn at reads
  cases name : row.cell "column_name" with
  | error failure =>
    rw [name] at reads
    cases reads
  | ok name' =>
    cases type : row.cell "data_type" with
    | error failure =>
      rw [name, type] at reads
      cases reads
    | ok type' =>
      cases position : row.intCell "ordinal_position" with
      | error failure =>
        rw [name, type, position] at reads
        cases reads
      | ok position' =>
        rw [name, type, position] at reads
        cases reads
        obtain ⟨own, udt⟩ := cellOrNull_eq_ofText? (texts "udt_name" (by simp))
        obtain ⟨other, rfl⟩ := texts "data_type" (by simp) type' (lookup?_of_cell type)
        dsimp only
        rw [udt]
        exact orElse_ofText? own other

theorem underlying_of_loaded {database : Database} (textual : database.Textual) (ref : TableRef) :
    ∀ column ∈ (Explorer.loaded database ref).columns, ∃ text, column.underlying = .ofText? text := by
  unfold Explorer.loaded
  cases answer : database (columnsStatement ref) with
  | error failure =>
    intro column member
    cases member
  | ok rows =>
    cases columns : rows.mapM readColumn with
    | error failure =>
      simp only [bind, Except.bind, readCatalog, columns]
      intro column member
      cases member
    | ok read =>
      simp only [bind, Except.bind, readCatalog, columns]
      intro column member
      obtain ⟨row, among, reads⟩ := (mem_of_mapM_eq_ok columns).mp member
      exact underlying_of_readColumn (textual.catalog _ rows rfl answer row among) reads

/-- The text that a row tells of a sample; an empty one does not count. -/
def sampledText? (row : Row) : Option String :=
  match Value.lookup? "v" row with
  | some (.text s) => if s = "" then none else some s
  | _ => none

/-- The texts that a sample tells. -/
def sampleOf (rows : List Row) : List String := rows.filterMap sampledText?

/-- Every row of a sample has a value. -/
def Complete (rows : List Row) : Prop := ∀ row ∈ rows, Value.lookup? "v" row ≠ none

theorem readSample_of_complete {rows : List Row} (complete : Complete rows) :
    readSample rows = .ok ((rows.map fun row : Row => row.cellOrNull "v").filter Value.truthy) := by
  have cells : rows.mapM (fun row : Row => row.cell "v") =
      .ok (rows.map fun row : Row => row.cellOrNull "v") := by
    refine mapM_eq_ok fun row member => ?_
    obtain ⟨v, found⟩ := Option.ne_none_iff_exists'.mp (complete row member)
    rw [Row.cell, Row.cellOrNull, found]
    rfl
  rw [readSample, cells]
  rfl

theorem readSample_of_not_complete {rows : List Row} (incomplete : ¬ Complete rows) :
    ∃ failure, readSample rows = .error failure := by
  simp only [Complete, not_forall, not_not] at incomplete
  obtain ⟨row, member, lacks⟩ := incomplete
  obtain ⟨failure, failed⟩ := mapM_fails (f := fun row : Row => row.cell "v") member
    ⟨_, View.cell_eq_error lacks⟩
  refine ⟨failure, ?_⟩
  rw [readSample, failed]
  rfl

/-- What counts among the values of a sample are its texts that are not empty. -/
theorem filter_truthy_eq {rows : List Row} (holds : ∀ row ∈ rows, row.HoldsText "v") :
    (rows.map fun row : Row => row.cellOrNull "v").filter Value.truthy = (sampleOf rows).map .text := by
  induction rows with
  | nil => rfl
  | cons row rest ih =>
    rw [List.forall_mem_cons] at holds
    have tail := ih holds.2
    have one : [row.cellOrNull "v"].filter Value.truthy = (sampledText? row).toList.map .text := by
      unfold Row.cellOrNull sampledText?
      cases found : Value.lookup? "v" row with
      | none => rfl
      | some v =>
        obtain ⟨text, rfl⟩ := holds.1 v found
        cases text with
        | none => rfl
        | some s => by_cases empty : s = "" <;> simp [Value.ofText?, Value.truthy, empty]
    rw [List.map_cons, ← List.singleton_append, List.filter_append, one, tail, ← List.map_append]
    rw [sampleOf, sampleOf, List.filterMap_cons]
    cases sampledText? row <;> rfl

theorem SampleFails.readSample_eq {database : Database} {ref : TableRef} {column : String}
    (fails : SampleFails database ref column) :
    ∃ failure, database (distinctStatement ref column) >>= readSample = .error failure := by
  cases fails with
  | @query failure answer => exact ⟨failure, by rw [answer]; rfl⟩
  | row answer member lacks =>
    obtain ⟨failure, failed⟩ := readSample_of_not_complete fun complete => complete _ member lacks
    exact ⟨failure, by rw [answer]; exact failed⟩

namespace View

/-! ### Reports -/

/-- A column as a report lists it. -/
structure ReportedColumn where
  name : String
  dataType : String
  underlying : Option String

/-- A column of a catalog, whose underlying type is told if it is a text. -/
def ReportedColumn.of (column : Column) : ReportedColumn where
  name := column.name
  dataType := column.dataType
  underlying := match column.underlying with
    | .text s => some s
    | _ => none

/-- What is told of a table. -/
structure Report where
  table : String
  columns : List ReportedColumn
  supports : Family → Bool
  picked : Role → Option String
  statusValues : List String

/-- A column of a report as an object. -/
def ReportedColumn.value (column : ReportedColumn) : Value :=
  .object [("name", .text column.name), ("dataType", .text column.dataType),
    ("udt", .ofText? column.underlying)]

/-- A report as an object. -/
def Report.value (report : Report) : Value :=
  .object
    [("table", .text report.table), ("columns", .list (report.columns.map ReportedColumn.value)),
     ("supports", .object (Family.all.map fun family => (family.name, .bool (report.supports family)))),
     ("columnsPicked", .object (Role.all.map fun role =>
       (Text.camelCase role.name ++ "Column", .ofText? (report.picked role)))),
     ("statusValues", .list (report.statusValues.map .text))]

/-- Some column was picked that the filters of a family need. -/
def Backed (picked : Role → Option String) : Family → Prop
  | .lifecycle =>
    ∃ role ∈ [Role.status, .expires, .scheduledDelete, .deletedAt, .deletedFlag], picked role ≠ none
  | .ageRange | .creationDateRange => picked .created ≠ none
  | .keywords => picked .domain ≠ none
  | .tld => picked .tld ≠ none ∨ picked .domain ≠ none
  | .wayback => picked .wayback ≠ none
  | .spamhaus => picked .spamhaus ≠ none
  | .viewsTotal => picked .viewsTotal ≠ none

theorem supported_iff (catalog : Catalog) (family : Family) :
    family.supported (.resolve catalog) = true ↔ Backed (RoleMap.resolve catalog).given family := by
  cases family <;>
    simp [Family.supported, Backed, RoleMap.supportsLifecycle, RoleMap.column?_resolve,
      Option.isSome_iff_ne_none]

/-- What is told of a table by its catalog and a sample of its states. -/
def reportOf (catalog : Catalog) (ref : TableRef) (statusValues : List String) : Report where
  table := ref.qualified
  columns := catalog.columns.map .of
  supports := (·.supported (.resolve catalog))
  picked := (RoleMap.resolve catalog).given
  statusValues := statusValues

theorem columnValue_eq {column : Column} (told : ∃ text, column.underlying = .ofText? text) :
    columnValue column = .ok (ReportedColumn.of column).value := by
  obtain ⟨name, dataType, underlying, position⟩ := column
  obtain ⟨text, rfl⟩ := told
  cases text <;> rfl

theorem value_eq {catalog : Catalog}
    (told : ∀ column ∈ catalog.columns, ∃ text, column.underlying = .ofText? text)
    (ref : TableRef) (values : List String) :
    (Capabilities.mk ref catalog (.resolve catalog) (values.map .text)).value =
      .ok (reportOf catalog ref values).value := by
  have columns : catalog.columns.mapM columnValue =
      .ok (catalog.columns.map fun column => (ReportedColumn.of column).value) :=
    mapM_eq_ok fun column member => columnValue_eq (told column member)
  have texts : (values.map Value.text).mapM textOf = .ok values := by
    have each := @mapM_eq_ok _ _ _ textOf (values.map .text) Value.display
      (by simp [textOf, Value.display])
    rwa [List.map_map, show Value.display ∘ Value.text = id from rfl, List.map_id] at each
  have picked : Text.camelCase "columns_picked" = "columnsPicked" := by decide +kernel
  have states : Text.camelCase "status_values" = "statusValues" := by decide +kernel
  unfold Capabilities.value
  rw [columns, texts]
  simp only [bind, Except.bind, object, reportOf, Report.value, List.map_map, List.map_cons, picked,
    states]
  rfl

/-! ### Runs -/

/-- A report tells what a catalog and a sample have told. -/
structure Report.Tells (report : Report) (catalog : Catalog) (ref : TableRef) (database : Database) :
    Prop where
  same : report = reportOf catalog ref report.statusValues
  unplayed : report.picked .status = none → report.statusValues = []
  unsampled : ∀ column, report.picked .status = some column → SampleFails database ref column →
    report.statusValues = []
  sampled : ∀ column rows, report.picked .status = some column →
    database (distinctStatement ref column) = .ok rows → Complete rows →
    report.statusValues = sampleOf rows

variable {database : Database} {explorer : Explorer}

theorem run_sample_textual (textual : database.Textual) (ref : TableRef) (column : String) :
    ∃ values : List String,
      (Explorer.sample database ref column : Exploring ViewError (List Value)).run explorer =
          (.ok (values.map .text), explorer.noted (distinctStatement ref column)) ∧
        (SampleFails database ref column → values = []) ∧
        ∀ rows, database (distinctStatement ref column) = .ok rows → Complete rows →
          values = sampleOf rows := by
  unfold Explorer.sample
  by_cases told : ∃ rows, database (distinctStatement ref column) = .ok rows ∧ Complete rows
  · obtain ⟨rows, answer, complete⟩ := told
    have reads : database (distinctStatement ref column) >>= readSample =
        .ok ((sampleOf rows).map .text) := by
      rw [answer, ← filter_truthy_eq (textual.sample _ rows rfl answer)]
      exact readSample_of_complete complete
    refine ⟨sampleOf rows, ?_, ?_, ?_⟩
    · simp only [reads]
      rfl
    · intro fails
      obtain ⟨failure, failed⟩ := fails.readSample_eq
      cases failed.symm.trans reads
    · intro rows' answer' _
      cases answer.symm.trans answer'
      rfl
  · -- Either the database fails or some row has no value, and the sample is empty.
    have fails : SampleFails database ref column := by
      cases answer : database (distinctStatement ref column) with
      | error failure => exact .query answer
      | ok rows =>
        have incomplete : ¬ Complete rows := fun complete => told ⟨rows, answer, complete⟩
        simp only [Complete, not_forall, not_not] at incomplete
        obtain ⟨row, member, lacks⟩ := incomplete
        exact .row answer member lacks
    obtain ⟨failure, failed⟩ := fails.readSample_eq
    refine ⟨[], ?_, fun _ => rfl, ?_⟩
    · simp only [failed]
      rfl
    · exact fun rows answer complete => absurd ⟨rows, answer, complete⟩ told

theorem exists_discoverBy (textual : database.Textual) (catalog : Catalog) (ref : TableRef) :
    ∃ (values : List String) (after : Explorer),
      (reportOf catalog ref values).Tells catalog ref database ∧
      (discoverBy catalog ref database : Exploring ViewError Capabilities).run explorer =
        (.ok ⟨ref, catalog, .resolve catalog, values.map .text⟩, after) := by
  unfold discoverBy
  dsimp only
  split
  next column plays =>
    obtain ⟨values, run, failed, complete⟩ :=
      @run_sample_textual database explorer textual ref column
    rw [RoleMap.column?_resolve] at plays
    refine ⟨values, explorer.noted (distinctStatement ref column), ⟨rfl, ?_, ?_, ?_⟩, ?_⟩
    · exact fun unplayed => nomatch plays.symm.trans unplayed
    · intro other played fails
      cases plays.symm.trans played
      exact failed fails
    · intro other rows played
      cases plays.symm.trans played
      exact complete rows
    · exact Explorer.run_bind_ok run
  next plays =>
    rw [RoleMap.column?_resolve] at plays
    refine ⟨[], explorer, ⟨rfl, fun _ => rfl, ?_, ?_⟩, rfl⟩
    · exact fun column played => nomatch plays.symm.trans played
    · exact fun column rows played => nomatch plays.symm.trans played

/-- By a catalog that is at hand, a report is given whatever the database says. -/
theorem exists_report {catalog : Catalog}
    (told : ∀ column ∈ catalog.columns, ∃ text, column.underlying = .ofText? text)
    (textual : database.Textual) (ref : TableRef) :
    ∃ report : Report, report.Tells catalog ref database ∧
      ((capabilitiesBy catalog ref database).run explorer).1 = .ok report.value := by
  obtain ⟨values, after, tells, run⟩ := @exists_discoverBy database explorer textual catalog ref
  refine ⟨reportOf catalog ref values, tells, ?_⟩
  unfold capabilitiesBy
  rw [Explorer.run_bind_ok run]
  exact value_eq told ref values

/-! ### Any history -/

/-- The call for what the table supports. -/
def asking (database : Database) : Visit := ⟨.capabilities, database⟩

/-- What is told of a table after some visits. -/
structure Discovered (ref : TableRef) (before : List Visit) (database : Database) (explorer : Explorer)
    (report : Report) : Prop where
  answered : ((asking database).run explorer).1 = .ok report.value
  /-- Whether a family is supported is told by the columns that were picked. -/
  backed : ∀ family, report.supports family = true ↔ Backed report.picked family
  /-- The columns are those of the catalog that was loaded last, and the roles are resolved by it. -/
  loaded : ∀ loader, LastLoad (before ++ [asking database]) loader →
    ∀ rows catalog, loader.database (columnsStatement ref) = .ok rows → readCatalog rows = .ok catalog →
      report.columns = catalog.columns.map .of ∧ report.picked = (RoleMap.resolve catalog).given
  /-- Where it could not be loaded there is nothing to tell, and no state is asked for. -/
  unloaded : ∀ loader, LastLoad (before ++ [asking database]) loader → LoadFails loader.database ref →
    report.columns = [] ∧ (∀ family, report.supports family = false) ∧
      (∀ role, report.picked role = none) ∧ report.statusValues = [] ∧
      ∃ asked, ((asking database).run explorer).2.asked = explorer.asked ++ asked ∧
        ∀ statement ∈ asked, statement.kind ≠ .distinct
  sampled : ∀ column rows, report.picked .status = some column →
    database (distinctStatement ref column) = .ok rows → Complete rows →
    report.statusValues = sampleOf rows
  /-- Where no states can be sampled there are none, and all else is what it is anyway. -/
  unsampled : ∀ column, report.picked .status = some column → SampleFails database ref column →
    report.statusValues = [] ∧
      ∀ other : Database, other.Textual → explorer.inForce other = explorer.inForce database →
        ∃ values, ((asking other).run explorer).1 = .ok { report with statusValues := values }.value

section Discovered

variable {ref : TableRef} {before : List Visit}

theorem Keeps.told (keeps : Keeps ref before explorer)
    (textual : ∀ visit ∈ before ++ [asking database], visit.database.Textual) :
    ∀ column ∈ (explorer.inForce database).columns, ∃ text, column.underlying = .ofText? text := by
  have needed : ∃ visit ∈ before ++ [asking database], visit.call.NeedsCatalog :=
    ⟨asking database, by simp, .inr .capabilities⟩
  obtain ⟨loader, last⟩ := exists_lastLoad needed
  have inForce : explorer.inForce database = Explorer.loaded loader.database ref :=
    keeps.inForce_eq .capabilities last
  obtain ⟨earlier, -, latest⟩ := last
  rw [inForce]
  exact underlying_of_loaded (textual loader latest.mem) ref

theorem loaded_of_readCatalog {rows : List Row} {catalog : Catalog}
    (answer : database (columnsStatement ref) = .ok rows) (reads : readCatalog rows = .ok catalog) :
    Explorer.loaded database ref = catalog := by
  have told : database (columnsStatement ref) >>= readCatalog = .ok catalog := by
    rw [answer]
    exact reads
  rw [Explorer.loaded, told]

theorem Keeps.discovered (keeps : Keeps ref before explorer)
    (textual : ∀ visit ∈ before ++ [asking database], visit.database.Textual) :
    ∃ report, Discovered ref before database explorer report := by
  have own : database.Textual := textual (asking database) (by simp)
  have told := keeps.told textual
  -- The report goes by the catalog in force, whichever database is asked for the sample.
  have report (other : Database) (same : explorer.inForce other = explorer.inForce database)
      (texts : other.Textual) : ∃ report : Report,
        report.Tells (explorer.inForce database) ref other ∧
          ((asking other).run explorer).1 = .ok report.value := by
    rw [Visit.run, asking, Call.perform, View.run_capabilities, same, keeps.table]
    exact exists_report told texts ref
  obtain ⟨found, tells, answered⟩ := report database rfl own
  refine ⟨found, answered, ?_, ?_, ?_, tells.sampled, ?_⟩
  · intro family
    rw [tells.same]
    exact supported_iff _ family
  · intro loader last rows catalog answer reads
    have inForce : explorer.inForce database = Explorer.loaded loader.database ref :=
      keeps.inForce_eq .capabilities last
    rw [tells.same, inForce, loaded_of_readCatalog answer reads]
    exact ⟨rfl, rfl⟩
  · intro loader last fails
    have inForce : explorer.inForce database = .empty :=
      (keeps.inForce_eq .capabilities last).trans fails.loaded_eq
    have picked (role : Role) : found.picked role = none := by
      rw [tells.same, inForce]
      cases role <;> rfl
    have supports (family : Family) : found.supports family = false := by
      rw [tells.same, inForce]
      cases family <;> rfl
    have columns : found.columns = [] := by
      rw [tells.same, inForce]
      rfl
    refine ⟨columns, supports, picked, tells.unplayed (picked .status), explorer.metadata, ?_, ?_⟩
    · obtain ⟨response, run⟩ := @run_capabilitiesBy_empty (explorer.informed database) ref database
      rw [Visit.run, asking, Call.perform, View.run_capabilities, inForce, keeps.table, run]
      rfl
    · intro statement asked
      unfold Explorer.metadata at asked
      split at asked
      · cases asked
      · cases List.mem_singleton.mp asked
        intro kind
        cases kind
  · intro column played fails
    refine ⟨tells.unsampled column played fails, ?_⟩
    intro other texts same
    obtain ⟨report', tells', answered'⟩ := report other same texts
    refine ⟨report'.statusValues, ?_⟩
    rw [answered', tells'.same, tells.same]
    rfl

end Discovered

/-- Whatever was asked before, and whatever the databases said or failed to say, there is an answer. -/
theorem discovery_degrades (table schema : String) (before : List Visit) (database : Database)
    (textual : ∀ visit ∈ before ++ [asking database], visit.database.Textual) :
    ∃ report,
      Discovered (.parse table schema) before database (after (.new table schema) before) report :=
  (keeps_after table schema before).discovered textual

/-- A table with a column of states that cannot be read. -/
def lockedStates : Database := fun statement =>
  match statement.kind with
  | .columns =>
    .ok [[("column_name", .text "domain"), ("data_type", .text "VARCHAR"), ("ordinal_position", .int 1)],
      [("column_name", .text "status"), ("data_type", .null), ("udt_name", .text "varchar"),
        ("ordinal_position", .int 2)]]
  | _ => .error (.query "locked")

theorem textual_lockedStates : lockedStates.Textual := by
  constructor
  case catalog =>
    intro statement rows kind answer row member name named v found
    rw [lockedStates, kind] at answer
    cases answer
    simp only [List.mem_cons, List.not_mem_nil, or_false] at member named
    rcases member with rfl | rfl <;> rcases named with rfl | rfl | rfl <;> cases found
    · exact ⟨some "domain", rfl⟩
    · exact ⟨some "VARCHAR", rfl⟩
    · exact ⟨some "status", rfl⟩
    · exact ⟨none, rfl⟩
    · exact ⟨some "varchar", rfl⟩
  case sample =>
    intro statement rows kind answer
    rw [lockedStates, kind] at answer
    cases answer

theorem discovery_degrades_lockedStates :
    (∀ visit ∈ [⟨.search .null, lockedStates⟩] ++ [asking lockedStates], visit.database.Textual) ∧
      ∃ report, Discovered (.parse "expired_domains" "main") [⟨.search .null, lockedStates⟩]
        lockedStates (after (.new "expired_domains" "main") [⟨.search .null, lockedStates⟩]) report := by
  have textual : ∀ visit ∈ [⟨.search .null, lockedStates⟩] ++ [asking lockedStates],
      visit.database.Textual := by
    intro visit member
    simp only [List.singleton_append, List.mem_cons, List.not_mem_nil, or_false] at member
    rcases member with rfl | rfl
    · exact textual_lockedStates
    · exact textual_lockedStates
  exact ⟨textual, discovery_degrades "expired_domains" "main" _ lockedStates textual⟩

end View

end DomainScout
