import DomainScout.Proofs.Query.Placeholders
import DomainScout.Proofs.Sql.Statement
import DomainScout.Proofs.View.Search

/-!
# Counts and pages

The count and the page of a search are two texts that are put together in two places, and their
values travel in two lists. They belong together only if both read the same table under the same
conditions with the same values, and if the size and the offset of the page are counted on from
these values. Then the number of rows that is reported is the number of the rows that are paged
through.

Main statement: `Explorer.search_paged`.
-/
namespace DomainScout

open Sql Query

/-! ### What is selected -/

/-- The names that selected columns get in a result. -/
def Query.outputs : List String := (leadingRoles ++ counterRoles).map Prod.snd

theorem Query.output_of_mem_projection {roles : RoleMap} {catalog : Catalog} {selected : Selected}
    (member : selected ∈ projection roles catalog) :
    ∀ name ∈ selected.output, name ∈ outputs := by
  have ofRole (wanted : List (Role × String)) (known : wanted ⊆ leadingRoles ++ counterRoles)
      (member : selected ∈ selectRoles roles wanted) : ∀ name ∈ selected.output, name ∈ outputs := by
    obtain ⟨⟨role, output⟩, listed, plays⟩ := List.mem_filterMap.mp member
    obtain ⟨column, _, rfl⟩ := Option.map_eq_some_iff.mp plays
    rintro name ⟨⟩
    exact List.mem_map.mpr ⟨(role, output), known listed, rfl⟩
  simp only [projection, List.mem_append] at member
  rcases member with (inLeading | inFixed) | inCounters
  · exact ofRole leadingRoles (by simp) inLeading
  · obtain ⟨fixed, _, found⟩ := List.mem_filterMap.mp inFixed
    obtain ⟨column, _, rfl⟩ := Option.map_eq_some_iff.mp found
    nofun
  · exact ofRole counterRoles (by simp) inCounters

/-- The tokens of a selected column. -/
def Query.Selected.tokens (selected : Selected) : List Sql.Token :=
  .quoted .identifier selected.column.toList ::
    (selected.output.elim [] fun name => scan (" AS " ++ name))

/-- Neither a word that starts a clause nor a reference to a value. -/
def Inert (tokens : List Sql.Token) : Prop :=
  Plain tokens ∧ tokens.filterMap Sql.Token.placeholder? = []

instance (tokens : List Sql.Token) : Decidable (Inert tokens) :=
  inferInstanceAs (Decidable (Plain tokens ∧ tokens.filterMap Sql.Token.placeholder? = []))

theorem Query.named_outputs : ∀ name ∈ outputs,
    (modeAfter (" AS " ++ name)).isOutside = true ∧ startsApart (" AS " ++ name) = true ∧
      Inert (scan (" AS " ++ name)) := by decide +kernel

section Selected

variable {selected : Selected} (known : ∀ name ∈ selected.output, name ∈ outputs)
include known

theorem Query.Selected.reads_text : Reads selected.text selected.tokens := by
  obtain ⟨column, output⟩ := selected
  cases output with
  | none => exact reads_quoteIdent column
  | some name =>
    obtain ⟨outside, apart, _⟩ := named_outputs name (known name rfl)
    simp only [text, expression, String.append_assoc]
    exact (reads_quoteIdent column).followed (" AS " ++ name) outside apart

theorem Query.Selected.inert_tokens : Inert selected.tokens := by
  obtain ⟨column, output⟩ := selected
  cases output with
  | none => exact ⟨.name column, rfl⟩
  | some name =>
    obtain ⟨_, _, plain, unreferring⟩ := named_outputs name (known name rfl)
    constructor
    · exact (Plain.name column).append plain
    · simpa [tokens, Sql.Token.placeholder?] using unreferring

end Selected

/-- The tokens of the list of the selected columns. -/
def Query.Compiled.selectTokens (compiled : Compiled) : List Sql.Token :=
  (scan ",\n       ").intercalate (compiled.selection.map Selected.tokens)

section Compiled

variable (criteria : Criteria) (target : Target)

theorem Query.reads_selectSql :
    Reads (compile criteria target).selectSql (compile criteria target).selectTokens := by
  have each : List.Forall₂ Reads ((compile criteria target).selection.map Selected.text)
      ((compile criteria target).selection.map Selected.tokens) := by
    simp only [List.forall₂_map_left_iff, List.forall₂_map_right_iff, List.forall₂_same]
    exact fun selected member => selected.reads_text (output_of_mem_projection member)
  exact .intercalate ",\n       " each

theorem Query.inert_selectTokens : Inert (compile criteria target).selectTokens := by
  have each : ∀ part ∈ (compile criteria target).selection.map Selected.tokens, Inert part := by
    intro part member
    obtain ⟨selected, listed, rfl⟩ := List.mem_map.mp member
    exact selected.inert_tokens (output_of_mem_projection listed)
  have gap : Inert (scan ",\n       ") := by decide
  constructor
  · exact gap.1.intercalate fun part member => (each part member).1
  · rw [Compiled.selectTokens, collect_intercalate rfl (fun _ _ => List.filterMap_append) gap.2]
    exact List.flatMap_eq_nil_iff.mpr fun part member => (each part member).2

end Compiled

/-! ### Under which conditions -/

/-- The conditions make one clause, and none if there are no conditions. -/
theorem Query.Compiled.consists_whereSql (compiled : Compiled) :
    Consists compiled.whereSql (clauses compiled.whereSql) := by
  obtain ⟨conditions, selection⟩ := compiled
  cases conditions with
  | nil => exact Consists.nothing
  | cons p rest =>
    have read := Reads.intercalate " AND " (Predicate.reads_texts (p :: rest) 0)
    have gap : Plain (scan " AND ") := by decide
    have plain := gap.intercalate (Written.plain_allTokens (p :: rest) 0)
    have whole := Consists.clause read plain "WHERE "
    exact whole.clauses_eq.symm ▸ whole

theorem Query.Compiled.placeholdersIn_whereSql (compiled : Compiled) :
    placeholdersIn compiled.whereSql = placeholders 0 compiled.parameters.length := by
  obtain ⟨conditions, selection⟩ := compiled
  cases conditions with
  | nil => rfl
  | cons p rest =>
    have each := Predicate.reads_texts (p :: rest) 0
    have read := (Reads.intercalate " AND " each).preceded "WHERE "
    have collected : (Predicate.allTokens 0 (p :: rest)).flatMap (List.filterMap Sql.Token.placeholder?)
        = (Predicate.texts 0 (p :: rest)).flatMap placeholdersIn := by
      generalize Predicate.texts 0 (p :: rest) = texts at each
      generalize Predicate.allTokens 0 (p :: rest) = tokens at each
      clear read
      induction each with
      | nil => rfl
      | cons first _ ih => simp_all [placeholdersIn, first.scanned]
    have whole : (Compiled.mk (p :: rest) selection).whereSql =
        "WHERE " ++ " AND ".intercalate (Predicate.texts 0 (p :: rest)) := rfl
    rw [whole, placeholdersIn, read.scanned, List.filterMap_append,
      placeholders_fixed (by decide), List.nil_append,
      collect_intercalate rfl (fun _ _ => List.filterMap_append) (by decide), collected,
      placeholdersIn_texts, Compiled.parameters]

/-! ### The clauses of a count and of a page -/

/-- The clause that names a table. -/
def fromClause (ref : TableRef) : List Sql.Token :=
  [.word "FROM".toList, .quoted .identifier ref.schema.toList, .symbol '.',
    .quoted .identifier ref.table.toList]

/-- The clause that orders the rows by a column. -/
def orderClause (column : String) : List Sql.Token :=
  [.word "ORDER".toList, .word "BY".toList, .quoted .identifier column.toList, .word "ASC".toList]

/-- The clause that takes no more rows than the value after `bound` others. -/
def limitClause (bound : Nat) : List Sql.Token := [.word "LIMIT".toList, referenceAfter bound]

/-- The clause that leaves out as many rows as the value after `bound` others. -/
def offsetClause (bound : Nat) : List Sql.Token := [.word "OFFSET".toList, referenceAfter bound]

/-- What a clause refers to is what it goes on with. -/
theorem placeholdersIn_preceded {s : String} {tokens : List Sql.Token} (read : Reads s tokens)
    (fix : String) (fixed : isFixed fix = true := by decide)
    (settled : modeAfter fix = .between := by decide) :
    placeholdersIn (fix ++ s) = tokens.filterMap Sql.Token.placeholder? := by
  rw [placeholdersIn, (read.preceded fix settled).scanned, List.filterMap_append,
    placeholders_fixed fixed, List.nil_append]

section Clauses

variable (criteria : Criteria) (target : Target) (ref : TableRef) (column : String) (bound : Nat)

theorem consists_select :
    Consists ("SELECT " ++ (compile criteria target).selectSql)
      (clauses ("SELECT " ++ (compile criteria target).selectSql)) := by
  have whole := Consists.clause (reads_selectSql criteria target)
    (inert_selectTokens criteria target).1 "SELECT "
  exact whole.clauses_eq.symm ▸ whole

theorem placeholdersIn_select :
    placeholdersIn ("SELECT " ++ (compile criteria target).selectSql) = [] := by
  rw [placeholdersIn_preceded (reads_selectSql criteria target) "SELECT "]
  exact (inert_selectTokens criteria target).2

theorem reads_quoteTable : Reads (quoteTable ref)
    ([.quoted .identifier ref.schema.toList] ++ scan "." ++
      [.quoted .identifier ref.table.toList]) :=
  (reads_quoteIdent ref.schema).joined "." (reads_quoteIdent ref.table)

theorem consists_from : Consists ("FROM " ++ quoteTable ref) [fromClause ref] := by
  have dot : Plain (scan ".") := by decide
  have plain := ((Plain.name ref.schema).append dot).append (.name ref.table)
  exact .clause (reads_quoteTable ref) plain "FROM "

theorem placeholdersIn_from : placeholdersIn ("FROM " ++ quoteTable ref) = [] := by
  rw [placeholdersIn_preceded (reads_quoteTable ref) "FROM "]
  rfl

theorem consists_order :
    Consists ("ORDER BY " ++ quoteIdent column ++ " ASC") [orderClause column] := by
  have read := (reads_quoteIdent column).followed " ASC"
  have ascending : Plain (scan " ASC") := by decide
  rw [String.append_assoc]
  exact .clause read ((Plain.name column).append ascending) "ORDER BY "

theorem placeholdersIn_order :
    placeholdersIn ("ORDER BY " ++ quoteIdent column ++ " ASC") = [] := by
  have read := (reads_quoteIdent column).followed " ASC"
  rw [String.append_assoc, placeholdersIn_preceded read "ORDER BY "]
  rfl

theorem consists_limit : Consists ("LIMIT " ++ placeholder bound) [limitClause bound] :=
  .clause (reads_placeholder bound) (.reference bound) "LIMIT "

theorem placeholdersIn_limit :
    placeholdersIn ("LIMIT " ++ placeholder bound) = [placeholder bound] := by
  rw [placeholdersIn_preceded (reads_placeholder bound) "LIMIT "]
  simp [placeholder?_referenceAfter]

theorem consists_offset : Consists ("OFFSET " ++ placeholder bound) [offsetClause bound] :=
  .clause (reads_placeholder bound) (.reference bound) "OFFSET "

theorem placeholdersIn_offset :
    placeholdersIn ("OFFSET " ++ placeholder bound) = [placeholder bound] := by
  rw [placeholdersIn_preceded (reads_placeholder bound) "OFFSET "]
  simp [placeholder?_referenceAfter]

end Clauses

/-! ### The same rows -/

/-- A part of a text. -/
def Within (part whole : String) : Prop := ∃ before after, whole = before ++ part ++ after

/-- A count and a page that are about the same rows. -/
structure SameRows (ref : TableRef) (compiled : Compiled) (column : String) (page : Page)
    (count fetch : Statement) : Prop where
  /-- Both name the table. -/
  table : Within (quoteTable ref) count.sql ∧ Within (quoteTable ref) fetch.sql
  /-- Both hold the conditions as they were compiled. -/
  conditions : Within compiled.whereSql count.sql ∧ Within compiled.whereSql fetch.sql
  /-- Whatever columns are called, the count consists of these clauses and of no others. -/
  counted : clauses count.sql =
    clauses "SELECT COUNT(*) AS total" ++ [fromClause ref] ++ clauses compiled.whereSql
  /-- And so does the page of these: it is cut from the rows that are counted, in the order of the
  column, by the two values after those of the conditions. -/
  fetched : clauses fetch.sql =
    clauses ("SELECT " ++ compiled.selectSql) ++ [fromClause ref] ++ clauses compiled.whereSql ++
      [orderClause column, limitClause count.parameters.length,
        offsetClause (count.parameters.length + 1)]
  /-- The values of the page are those of the count, its size and its offset. -/
  parameters : fetch.parameters =
    count.parameters ++ [.int page.size, .int ((page.number - 1) * page.size)]
  /-- Outside quotes the page refers to each of its values once, and in order. -/
  references : placeholdersIn fetch.sql =
    (List.range (count.parameters.length + 2)).map fun i => "$" ++ toString (i + 1)

/-- The page, line by line. -/
theorem pageStatement_sql (ref : TableRef) (compiled : Compiled) (column : String) (page : Page) :
    (pageStatement ref compiled column page).sql =
      sqlLines ["SELECT " ++ compiled.selectSql, "FROM " ++ quoteTable ref, compiled.whereSql,
        "ORDER BY " ++ quoteIdent column ++ " ASC",
        "LIMIT " ++ placeholder compiled.parameters.length,
        "OFFSET " ++ placeholder (compiled.parameters.length + 1)] := by
  simp [pageStatement, Binder.bind]

/-- Every line of several is a part of them. -/
theorem within_sqlLines {line : String} {lines : List String} (member : line ∈ lines) :
    Within line (sqlLines lines) := by
  induction lines with
  | nil => cases member
  | cons first rest ih =>
    cases rest with
    | nil =>
      rw [List.mem_singleton.mp member]
      exact ⟨"", "", by simp [sqlLines]⟩
    | cons next rest =>
      have split : sqlLines (first :: next :: rest) = first ++ "\n" ++ sqlLines (next :: rest) :=
        String.intercalate_cons_cons
      rcases List.mem_cons.mp member with rfl | later
      · exact ⟨"", "\n" ++ sqlLines (next :: rest), by simp [split, String.append_assoc]⟩
      · obtain ⟨before, after, whole⟩ := ih later
        exact ⟨first ++ "\n" ++ before, after, by simp [split, whole, String.append_assoc]⟩

theorem Within.trans {part middle whole : String} (inner : Within part middle)
    (outer : Within middle whole) : Within part whole := by
  obtain ⟨before, after, rfl⟩ := inner
  obtain ⟨before', after', rfl⟩ := outer
  exact ⟨before' ++ before, after ++ after', by simp [String.append_assoc]⟩

theorem sameRows (criteria : Criteria) (target : Target) (ref : TableRef) (column : String)
    (page : Page) :
    SameRows ref (compile criteria target) column page
      (countStatement ref (compile criteria target))
      (pageStatement ref (compile criteria target) column page) := by
  have conditions := (compile criteria target).consists_whereSql
  have lines :=
    List.Forall₂.cons (consists_select criteria target) <| .cons (consists_from ref) <|
      .cons conditions <| .cons (consists_order column) <|
      .cons (consists_limit (compile criteria target).parameters.length) <|
      .cons (consists_offset ((compile criteria target).parameters.length + 1)) <| .nil
  have selected := placeholdersIn_select criteria target
  generalize compile criteria target = compiled at *
  have paged := pageStatement_sql ref compiled column page
  constructor
  case table =>
    have inLine : Within (quoteTable ref) ("FROM " ++ quoteTable ref) := ⟨"FROM ", "", by simp⟩
    constructor
    · exact ⟨"SELECT COUNT(*) AS total FROM ", " " ++ compiled.whereSql,
        by simp [countStatement, String.append_assoc]⟩
    · rw [paged]
      exact inLine.trans (within_sqlLines (by simp))
  case conditions =>
    constructor
    · exact ⟨"SELECT COUNT(*) AS total FROM " ++ quoteTable ref ++ " ", "", by simp [countStatement]⟩
    · rw [paged]
      exact within_sqlLines (by simp)
  case counted =>
    have start := Consists.fixed "SELECT COUNT(*) AS total"
    have whole := (start.spaced (consists_from ref)).spaced conditions
    have same : (countStatement ref compiled).sql =
        "SELECT COUNT(*) AS total" ++ " " ++ ("FROM " ++ quoteTable ref) ++ " " ++
          compiled.whereSql := by
      simp [countStatement, ← String.append_assoc]
    rw [same, whole.clauses_eq]
  case fetched =>
    rw [paged, (Consists.lines lines).clauses_eq]
    simp [countStatement]
  case parameters => simp [pageStatement, countStatement, Binder.bind, Page.offset]
  case references =>
    have counted := placeholders_append 0 compiled.parameters.length 2
    rw [placeholders_eq_map, Nat.zero_add] at counted
    rw [paged, placeholdersIn_sqlLines lines]
    simp only [List.flatMap_cons, selected, placeholdersIn_from, placeholdersIn_order,
      placeholdersIn_limit, placeholdersIn_offset, compiled.placeholdersIn_whereSql,
      List.flatMap_nil, List.nil_append, List.append_nil]
    simpa [placeholders, placeholder, countStatement] using counted.symm

/-! ### Searches -/

namespace Explorer

/-- A search whose statements are answered. -/
structure Paged (database : Database) (explorer : Explorer) (criteria : Criteria)
    (plan : SearchPlan) (page : Page) (total : Int) (rows : List Row)
    (outcome : Except SearchError SearchPage × Explorer) : Prop where
  /-- The table is the explorer's, and the rows are ordered by the column of the domains. -/
  planned : plan.table = explorer.table ∧
    (Target.ofCatalog (explorer.inForce database)).roles.column? .domain = some plan.domain
  /-- Besides the catalog, two statements are sent: the count and then the page. -/
  asked : outcome.2.asked = explorer.asked ++ explorer.metadata ++ [plan.count, plan.page page]
  sameRows : SameRows plan.table (compile criteria (Target.ofCatalog (explorer.inForce database)))
    plan.domain page plan.count (plan.page page)
  bounded : page.Bounded
  /-- What is reported is the page that was asked for, and what was answered. -/
  reported : ∀ result, outcome.1 = .ok result →
    result.page = page ∧ result.total = total ∧ result.rows = rows
  /-- A count that fits into 64 bits is reported. -/
  returned : total.natAbs < 2 ^ 64 → ∃ result, outcome.1 = .ok result

section Search

variable {database : Database} {explorer : Explorer} {criteria : Criteria} {number size : Value}
  {plan : SearchPlan} {page : Page} {counted rows : List Row} {total : Int}

theorem run_fetch (bounds : Page.clamp number size = .ok page)
    (count : database plan.count = .ok counted) (told : readCount counted = .ok total)
    (fetch : database (plan.page page) = .ok rows) :
    (Explorer.fetch database plan.table plan.compiled plan.domain number size).run explorer =
      (((page.total total).mapError fun fault => Failure.crash (.number fault)).map
          fun pages => ⟨page, total, pages, rows⟩,
        (explorer.noted plan.count).noted (plan.page page)) := by
  unfold Explorer.fetch
  rw [run_bind_ok (run_given (mapError_ok bounds)), ← SearchPlan.count, ← SearchPlan.page,
    run_bind_ok (run_ask count), run_bind_ok (run_given told), run_bind_ok (run_ask fetch)]
  cases quotient : page.total total with
  | ok pages =>
    rw [run_bind_ok (run_given (mapError_ok rfl))]
    rfl
  | error fault =>
    rw [run_bind_error (run_given (mapError_error rfl))]
    rfl

/-- The rows that are counted are the rows that are paged through. -/
theorem search_paged (found : explorer.plan? database criteria = some plan)
    (bounds : Page.clamp number size = .ok page) (count : database plan.count = .ok counted)
    (told : readCount counted = .ok total) (fetch : database (plan.page page) = .ok rows) :
    Paged database explorer criteria plan page total rows
      ((search database criteria number size).run explorer) := by
  have run := run_search database criteria number size explorer
  rw [found] at run
  simp only [run_adapt (run_fetch bounds count told fetch)] at run
  have bounded := (Page.fits_of_clamp bounds).2
  obtain ⟨domain, plays, rfl⟩ := Option.map_eq_some_iff.mp found
  rw [run]
  constructor
  case planned => exact ⟨rfl, plays⟩
  case asked =>
    simp only [informed, noted, List.append_assoc]
    rfl
  case sameRows => exact DomainScout.sameRows criteria _ _ _ page
  case bounded => exact bounded
  case reported =>
    intro result same
    cases quotient : page.total total with
    | error fault =>
      rw [quotient] at same
      cases same
    | ok pages =>
      rw [quotient] at same
      cases same
      exact ⟨rfl, rfl, rfl⟩
  case returned =>
    intro fits
    obtain ⟨pages, quotient⟩ := Page.total_eq_ok bounded fits
    exact ⟨⟨page, total, pages, rows⟩, by rw [quotient]; rfl⟩

/-- The second page of ten rows, of the domains that start with a quote. -/
theorem search_paged_threeDomains :
    ∃ (criteria : Criteria) (plan : SearchPlan) (page : Page) (counted rows : List Row) (total : Int),
      criteria.text .domainStartsWith = some "\"" ∧
      (Explorer.new "expired_domains" "main").plan? View.threeDomains criteria = some plan ∧
      Page.clamp (.text "2") (.int 10) = .ok page ∧ View.threeDomains plan.count = .ok counted ∧
      readCount counted = .ok total ∧ View.threeDomains (plan.page page) = .ok rows ∧
      Paged View.threeDomains (.new "expired_domains" "main") criteria plan page total rows
        ((search View.threeDomains criteria (.text "2") (.int 10)).run
          (.new "expired_domains" "main")) := by
  let criteria : Criteria := { Criteria.unfiltered with
    text := fun field => if field = .domainStartsWith then some "\"" else none }
  let explorer := Explorer.new "expired_domains" "main"
  have hosts : (explorer.plan? View.threeDomains criteria).isSome = true := by decide +kernel
  obtain ⟨plan, found⟩ := Option.isSome_iff_exists.mp hosts
  have bounds : Page.clamp (.text "2") (.int 10) = .ok ⟨2, 10⟩ := by decide +kernel
  exact ⟨criteria, plan, ⟨2, 10⟩, [[("total", .int 3)]], _, 3, rfl, found, bounds, rfl, rfl, rfl,
    search_paged found bounds rfl rfl rfl⟩

end Search

end Explorer

end DomainScout
