import DomainScout.Proofs.Query.Conditions
import DomainScout.Proofs.Sql.Clause

/-!
# The structure of a compiled query

Column names are arbitrary texts, and they stand in the text of a query only between quotes. So
the text can be read back: its quotes and parentheses are closed, it quotes only names of columns
that the target has, and its clause splits into its conditions.

Main statement: `structure_of_compile`.
-/
namespace DomainScout.Query

open Sql

/-- The name of a column that plays a role, or of a column with one of the fixed names. -/
def Target.Names (target : Target) (name : String) : Prop :=
  (∃ role, target.roles.column? role = some name)
    ∨ ∃ fixed ∈ fixedColumns, target.fixed? fixed = some name

/-- A condition that is closed in itself, whatever the columns are called. -/
structure Sealed (target : Target) (fragment : String) : Prop where
  /-- The text ends outside quotes. -/
  outside : (modeAfter fragment).isOutside = true
  /-- Quoted identifiers are names of columns. -/
  named : ∀ name ∈ identifiers fragment, target.Names name
  /-- Outside quotes, parentheses are closed after they were opened. -/
  balanced : Balanced (scan fragment)
  /-- Outside quotes and parentheses there is no connective. -/
  apart : joins (scan fragment) = false

theorem fixedNames_subset (filter : Filter) : filter.fixedNames ⊆ fixedColumns := by
  cases filter <;> decide

theorem names_of_mem_columns {target : Target} {filter : Filter} {name : String}
    (member : name ∈ filter.columns target) : target.Names name := by
  rcases List.mem_append.mp member with ofRole | ofFixed
  · obtain ⟨role, _, plays⟩ := List.mem_filterMap.mp ofRole
    exact .inl ⟨role, plays⟩
  · obtain ⟨fixed, known, found⟩ := List.mem_filterMap.mp ofFixed
    exact .inr ⟨fixed, fixedNames_subset filter known, found⟩

theorem names_of_mem_projection {target : Target} {selected : Selected}
    (member : selected ∈ projection target.roles target.catalog) :
    target.Names selected.column := by
  have ofRole (wanted : List (Role × String)) (member : selected ∈ selectRoles target.roles wanted) :
      target.Names selected.column := by
    obtain ⟨⟨role, output⟩, _, plays⟩ := List.mem_filterMap.mp member
    obtain ⟨column, found, rfl⟩ := Option.map_eq_some_iff.mp plays
    exact .inl ⟨role, found⟩
  unfold projection at member
  rcases List.mem_append.mp member with inFirst | inCounters
  · rcases List.mem_append.mp inFirst with inLeading | inFixed
    · exact ofRole leadingRoles inLeading
    · obtain ⟨fixed, known, found⟩ := List.mem_filterMap.mp inFixed
      obtain ⟨column, listed, rfl⟩ := Option.map_eq_some_iff.mp found
      exact .inr ⟨fixed, known, Option.map_eq_some_iff.mpr ⟨column, listed, rfl⟩⟩
  · exact ofRole counterRoles inCounters

/-- Every condition of a query comes from one of its filters. -/
theorem exists_filter_of_mem_conditions {criteria : Criteria} {target : Target} {p : Predicate}
    (member : p ∈ (compile criteria target).conditions) :
    ∃ filter, p ∈ Filter.conditions target criteria filter := by
  obtain ⟨filter, _, inFilter⟩ := List.mem_flatMap.mp member
  exact ⟨filter, inFilter⟩

theorem mem_texts {fragment : String} {ps : List Predicate} {before : Nat}
    (member : fragment ∈ Predicate.texts before ps) :
    ∃ p ∈ ps, ∃ earlier, fragment = p.text earlier := by
  induction ps generalizing before with
  | nil => cases member
  | cons p rest ih =>
    rcases List.mem_cons.mp member with rfl | inRest
    · exact ⟨p, List.mem_cons_self, before, rfl⟩
    · obtain ⟨q, listed, earlier, written⟩ := ih inRest
      exact ⟨q, .tail p listed, earlier, written⟩

theorem sealed_text {target : Target} {filter : Filter} {p : Predicate}
    (rests : Over (filter.columns target) p) (before : Nat) : Sealed target (p.text before) := by
  have read := p.reads_text before
  constructor
  · exact read.outside
  · intro name member
    rw [p.identifiers_text] at member
    exact names_of_mem_columns (rests.within name member)
  · rw [read.scanned]
    exact p.balanced_tokens before
  · rw [read.scanned]
    exact Predicate.not_joins_of_isClosed rests.closed before

theorem conjuncts_whereSql (criteria : Criteria) (target : Target) :
    conjuncts (compile criteria target).whereSql = (compile criteria target).fragments := by
  have closed : ∀ p ∈ (compile criteria target).conditions, p.isClosed = true := by
    intro p member
    obtain ⟨filter, inFilter⟩ := exists_filter_of_mem_conditions member
    exact (over_of_mem_conditions inFilter).closed
  unfold Compiled.whereSql Compiled.fragments
  -- Without conditions there is no clause at all, not a clause without conditions.
  cases conditions : (compile criteria target).conditions with
  | nil => rfl
  | cons p rest =>
    rw [conditions] at closed
    exact Predicate.conjuncts_texts (p :: rest) closed 0 (List.cons_ne_nil p rest)

/-- Whatever the columns are called and whatever is searched for: every condition of a query is
closed in itself and quotes only names of columns; every selected expression is the quoted name of
a column; and the clause splits, at the `AND`s outside quotes and parentheses, into just the
conditions. -/
theorem structure_of_compile (criteria : Criteria) (target : Target) :
    (∀ fragment ∈ (compile criteria target).fragments, Sealed target fragment) ∧
    (∀ selected ∈ (compile criteria target).selection,
      (modeAfter selected.expression).isOutside = true ∧
      identifiers selected.expression = [selected.column] ∧ target.Names selected.column) ∧
    conjuncts (compile criteria target).whereSql = (compile criteria target).fragments ∧
    ((compile criteria target).whereSql = "" ↔ (compile criteria target).fragments = []) := by
  refine ⟨?_, ?_, conjuncts_whereSql criteria target, ?_, ?_⟩
  · intro fragment member
    obtain ⟨p, inConditions, before, rfl⟩ := mem_texts member
    obtain ⟨filter, inFilter⟩ := exists_filter_of_mem_conditions inConditions
    exact sealed_text (over_of_mem_conditions inFilter) before
  · intro selected member
    have read := reads_quoteIdent selected.column
    refine ⟨read.outside, ?_, names_of_mem_projection member⟩
    rw [identifiers, Selected.expression, read.scanned]
    simp [Token.identifier?]
  · intro empty
    rw [← conjuncts_whereSql, empty]
    decide
  · intro none
    rw [Compiled.whereSql, none]
    rfl

end DomainScout.Query
