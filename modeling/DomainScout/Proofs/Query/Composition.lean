import DomainScout.Proofs.Query.Conditions

/-!
# Queries are composed of their filters

Each filter reads fields of its own. A query is the sequence of what its filters compile to on
their own, with the placeholders of each counted on after the parameters of those before it.

Main statement: `compile_compose`.
-/
namespace DomainScout.Query

open Sql Criteria

/-- The filter that reads a field. -/
def filterOf : Field → Filter
  | .text .domainStartsWith => .startsWith
  | .text .domainEndsWith => .endsWith
  | .tld => .tld
  | .lifecycle | .text .expiringWithinDays => .lifecycle
  | .text .creationDateFrom => .createdFrom
  | .text .creationDateTo => .createdTo
  | .text .ageYearsFrom | .text .ageYearsTo => .age
  | .text .countryByIp => .country
  | .text .registrarContains => .registrar
  | .text .technologiesContains => .technologies
  | .text .responseStatusContains => .responseStatus
  | .text .detectedHostsMin => .hostsMin
  | .text .detectedHostsMax => .hostsMax
  | .text .expirationFrom => .expiresFrom
  | .text .expirationTo => .expiresTo
  | .text .waybackMinSnapshots => .waybackMin
  | .safeSpamhausOnly => .safeSpamhaus
  | .safeViewsTotalOnly => .safeViews

/-- The criteria with the fields of some filters only; the others are not set. -/
def keeping (wanted : Filter → Bool) (criteria : Criteria) : Criteria where
  text field := if wanted (filterOf (.text field)) then criteria.text field else none
  tlds := if wanted (filterOf .tld) then criteria.tlds else []
  lifecycle := if wanted (filterOf .lifecycle) then criteria.lifecycle else none
  safeSpamhausOnly := wanted (filterOf .safeSpamhausOnly) && criteria.safeSpamhausOnly
  safeViewsTotalOnly := wanted (filterOf .safeViewsTotalOnly) && criteria.safeViewsTotalOnly

/-- The criteria with the fields of one filter only. -/
def only (filter : Filter) (criteria : Criteria) : Criteria := keeping (· = filter) criteria

/-- The criteria without the fields of one filter. -/
def without (filter : Filter) (criteria : Criteria) : Criteria := keeping (· ≠ filter) criteria

/-- The conditions of queries one after another, where `before` parameters come first. -/
def joinFragments (before : Nat) : List Compiled → List String
  | [] => []
  | part :: rest =>
    part.fragments.map (renumber before) ++ joinFragments (before + part.parameters.length) rest

theorem given?_keeping (wanted : Filter → Bool) (criteria : Criteria) (field : TextField) :
    given? (keeping wanted criteria) field =
      if wanted (filterOf (.text field)) = true then given? criteria field else none := by
  by_cases kept : wanted (filterOf (.text field)) = true
  · simp only [given?, keeping, if_pos kept]
  · simp only [given?, keeping, if_neg kept, Option.filter_none]

theorem onColumn_none (column : Option String) (condition : String → String → Predicate) :
    onColumn column none condition = [] := by
  cases column <;> rfl

/-- A filter that is kept has the conditions that it had; any other has none. -/
theorem conditions_keeping (target : Target) (wanted : Filter → Bool) (criteria : Criteria)
    (filter : Filter) :
    filter.conditions target (keeping wanted criteria) =
      if wanted filter = true then filter.conditions target criteria else [] := by
  -- Every field that a filter reads belongs to it, so all of them are kept or none.
  by_cases kept : wanted filter = true
  · rw [if_pos kept]
    cases filter with
    | tld | lifecycle | safeSpamhaus | safeViews =>
      simp only [Filter.conditions, tldTerms, keeping, filterOf, kept, if_true, Bool.true_and]
    | age =>
      have same (column : String) :
          ageConditions (keeping wanted criteria) column = ageConditions criteria column := by
        simp only [ageConditions, keeping, filterOf, kept, if_true]
      simp only [Filter.conditions, funext same]
    | startsWith | endsWith | createdFrom | createdTo | country | registrar | technologies
    | responseStatus | hostsMin | hostsMax | expiresFrom | expiresTo | waybackMin =>
      simp only [Filter.conditions, given?_keeping, filterOf, kept, if_true]
  · rw [if_neg kept]
    rw [Bool.not_eq_true] at kept
    cases filter with
    | tld =>
      simp only [Filter.conditions, tldTerms, keeping, filterOf, kept, Bool.false_eq_true, if_false]
      rfl
    | lifecycle =>
      simp only [Filter.conditions, keeping, filterOf, kept, Bool.false_eq_true, if_false]
    | age =>
      have none (column : String) : ageConditions (keeping wanted criteria) column = [] := by
        simp only [ageConditions, keeping, filterOf, kept, Bool.false_eq_true, if_false]
        rfl
      simp only [Filter.conditions, funext none]
      cases target.roles.column? .created <;> rfl
    | safeSpamhaus | safeViews =>
      simp only [Filter.conditions, keeping, filterOf, kept, Bool.false_and]
      rfl
    | startsWith | endsWith | createdFrom | createdTo | country | registrar | technologies
    | responseStatus | hostsMin | hostsMax | expiresFrom | expiresTo | waybackMin =>
      simp only [Filter.conditions, given?_keeping, filterOf, kept, Bool.false_eq_true, if_false,
        onColumn_none]

theorem conditions_of_keeping (target : Target) (wanted : Filter → Bool) (criteria : Criteria) :
    (compile (keeping wanted criteria) target).conditions =
      (Filter.all.filter wanted).flatMap (Filter.conditions target criteria) := by
  have each : Filter.conditions target (keeping wanted criteria) = fun filter =>
      if wanted filter = true then filter.conditions target criteria else [] :=
    funext (conditions_keeping target wanted criteria)
  rw [compile, each]
  induction Filter.all with
  | nil => rfl
  | cons filter rest ih =>
    by_cases kept : wanted filter = true
    · simp only [List.flatMap_cons, if_pos kept, List.filter_cons_of_pos kept] at ih ⊢
      rw [ih]
    · simp only [List.flatMap_cons, if_neg kept, List.filter_cons_of_neg kept] at ih ⊢
      rw [ih, List.nil_append]

/-- With the fields of one filter only, the conditions are those of the filter. -/
theorem conditions_only (target : Target) (filter : Filter) (criteria : Criteria) :
    (compile (only filter criteria) target).conditions = filter.conditions target criteria := by
  have single : Filter.all.filter (· = filter) = [filter] := by cases filter <;> rfl
  rw [only, conditions_of_keeping, single, List.flatMap_singleton]

theorem texts_shift (ps : List Predicate) (more before : Nat) :
    (Predicate.texts before ps).map (renumber more) = Predicate.texts (before + more) ps := by
  induction ps generalizing before with
  | nil => rfl
  | cons p rest ih =>
    simp only [Predicate.texts, List.map_cons, p.renumber_text, ih, Nat.add_right_comm]

theorem texts_append (ps qs : List Predicate) (before : Nat) :
    Predicate.texts before (ps ++ qs) =
      Predicate.texts before ps ++ Predicate.texts (before + (Predicate.allValues ps).length) qs := by
  induction ps generalizing before with
  | nil => rfl
  | cons p rest ih =>
    simp only [Predicate.texts, List.cons_append, ih, Predicate.allValues, List.flatMap_cons,
      List.length_append, Nat.add_assoc]

/-- The conditions of some filters are those of each filter on its own, one after another. -/
theorem joinFragments_only (target : Target) (criteria : Criteria) (filters : List Filter)
    (before : Nat) :
    joinFragments before (filters.map fun filter => compile (only filter criteria) target) =
      Predicate.texts before (filters.flatMap (Filter.conditions target criteria)) := by
  -- Each filter on its own starts at `$1`; shifting its text is writing it after `before` values.
  induction filters generalizing before with
  | nil => rfl
  | cons filter rest ih =>
    simp only [List.map_cons, joinFragments, Compiled.fragments, Compiled.parameters,
      conditions_only, texts_shift, Nat.zero_add, ih, List.flatMap_cons, texts_append]

theorem parameters_only (target : Target) (criteria : Criteria) (filters : List Filter) :
    (filters.map fun filter => compile (only filter criteria) target).flatMap Compiled.parameters =
      Predicate.allValues (filters.flatMap (Filter.conditions target criteria)) := by
  simp only [List.flatMap_map, Compiled.parameters, conditions_only, Predicate.allValues,
    List.flatMap_assoc]

/-- With some filters kept, a query is composed of what these filters compile to on their own. -/
theorem compose_keeping (target : Target) (wanted : Filter → Bool) (criteria : Criteria) :
    let parts := (Filter.all.filter wanted).map fun filter => compile (only filter criteria) target
    (compile (keeping wanted criteria) target).parameters = parts.flatMap Compiled.parameters ∧
    (compile (keeping wanted criteria) target).fragments = joinFragments 0 parts := by
  constructor
  · rw [parameters_only, Compiled.parameters, conditions_of_keeping]
  · rw [joinFragments_only, Compiled.fragments, conditions_of_keeping]

theorem keeping_all (criteria : Criteria) : keeping (fun _ => true) criteria = criteria := rfl

/-- Filters compile on their own. A query has the parameters of its filters one after another, and
their conditions with every placeholder counted on after the parameters of the filters before.
Leaving out a filter leaves out its part and nothing else, and a filter whose columns are all
missing has no part. -/
theorem compile_compose (criteria : Criteria) (target : Target) :
    let part := fun filter => compile (only filter criteria) target
    (compile criteria target).parameters = (Filter.all.map part).flatMap Compiled.parameters ∧
    (compile criteria target).fragments = joinFragments 0 (Filter.all.map part) ∧
    (∀ filter,
      (compile (without filter criteria) target).parameters =
        ((Filter.all.filter (· ≠ filter)).map part).flatMap Compiled.parameters ∧
      (compile (without filter criteria) target).fragments =
        joinFragments 0 ((Filter.all.filter (· ≠ filter)).map part)) ∧
    (∀ filter, filter.columns target = [] →
      (part filter).fragments = [] ∧ (part filter).parameters = []) := by
  have all : Filter.all.filter (fun _ => true) = Filter.all := rfl
  have whole := compose_keeping target (fun _ => true) criteria
  rw [all, keeping_all] at whole
  refine ⟨whole.1, whole.2, fun filter => compose_keeping target (· ≠ filter) criteria, ?_⟩
  intro filter missing
  have nothing : (compile (only filter criteria) target).conditions = [] := by
    rw [conditions_only, conditions_eq_nil missing]
  constructor
  · rw [Compiled.fragments, nothing]
    rfl
  · rw [Compiled.parameters, nothing]
    rfl

/-- In a table without a column of the wayback counter, a search by prefix, ages and snapshots has
no part for the snapshots. -/
theorem compile_compose_without_counter :
    let text (name : String) : Column := ⟨name, "VARCHAR", .null, 1⟩
    let target := Target.ofCatalog ⟨[text "domain", text "created_at"]⟩
    let criteria : Criteria :=
      { Criteria.unfiltered with
        text := fun field =>
          match field with
          | .domainStartsWith => some "shop"
          | .ageYearsFrom => some "10"
          | .ageYearsTo => some "2"
          | .waybackMinSnapshots => some "5"
          | _ => none }
    Filter.columns target .waybackMin = [] ∧
    (compile (only .waybackMin criteria) target).fragments = [] ∧
    (compile criteria target).parameters =
      (Filter.all.map fun filter => compile (only filter criteria) target).flatMap
        Compiled.parameters := by
  intro text target criteria
  have missing : Filter.columns target .waybackMin = [] := by decide +kernel
  have composed := compile_compose criteria target
  exact ⟨missing, (composed.2.2.2 .waybackMin missing).1, composed.1⟩

end DomainScout.Query
