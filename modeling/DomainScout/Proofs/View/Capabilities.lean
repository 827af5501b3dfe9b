import DomainScout.Proofs.Catalog.Role
import DomainScout.Proofs.Query.Composition
import DomainScout.Proofs.Query.Shape
import DomainScout.Proofs.Store.Explorer
import DomainScout.View.Catalog

/-!
# Capabilities and queries

What a table supports is told by one function, and which filters have conditions is decided by
others. They agree: a family that is not supported adds nothing to a query, and a family that is
supported adds a condition wherever one of its fields says something. For the lifecycle this holds
of one of its states, since a table may tell one state and not the others.

Main statement: `supports_agree`.
-/
namespace DomainScout.View

open Sql Query Criteria

namespace Family

/-- The fields of the criteria that belong to a family. -/
def fields : Family → List Field
  | lifecycle => [.lifecycle, .text .expiringWithinDays]
  | ageRange => [.text .ageYearsFrom, .text .ageYearsTo]
  | creationDateRange => [.text .creationDateFrom, .text .creationDateTo]
  | keywords => [.text .domainStartsWith, .text .domainEndsWith]
  | tld => [.tld]
  | wayback => [.text .waybackMinSnapshots]
  | spamhaus => [.safeSpamhausOnly]
  | viewsTotal => [.safeViewsTotalOnly]

/-- The filters that read these fields. -/
def filters (family : Family) : List Filter := family.fields.map filterOf

/-- All other fields are as they are where nothing is filtered. -/
def SetsOnly (family : Family) (criteria : Criteria) : Prop :=
  ∀ field, field ∉ family.fields → criteria.value field = Criteria.unfiltered.value field

/-- A text is given that is not empty, as any text that is not blank. -/
def Filled (criteria : Criteria) (field : TextField) : Prop :=
  ∃ text, criteria.text field = some text ∧ text ≠ ""

/-- An age is given that reads as a finite number. -/
def Aged (criteria : Criteria) (field : TextField) : Prop :=
  ∃ text, criteria.text field = some text ∧ spellsFinite text = true

/-- A field of the family says something. -/
def Effective (criteria : Criteria) : Family → Prop
  | lifecycle => criteria.lifecycle ≠ none
  | ageRange => Aged criteria .ageYearsFrom ∨ Aged criteria .ageYearsTo
  | creationDateRange => Filled criteria .creationDateFrom ∨ Filled criteria .creationDateTo
  | keywords => Filled criteria .domainStartsWith ∨ Filled criteria .domainEndsWith
  | tld => ∃ term ∈ criteria.tlds, normalizeTld term ≠ ""
  | wayback => Filled criteria .waybackMinSnapshots
  | spamhaus => criteria.safeSpamhausOnly = true
  | viewsTotal => criteria.safeViewsTotalOnly = true

end Family

section Unsupported

variable {family : Family} {criteria : Criteria}

/-- Keeping the filters of a family keeps everything where nothing else is set. -/
theorem keeping_eq_self (sets : family.SetsOnly criteria) :
    keeping (· ∈ family.filters) criteria = criteria := by
  -- What is not kept is set back to what it is anyway, field by field.
  have unset (field : Field) (other : filterOf field ∉ family.filters) :
      criteria.value field = Criteria.unfiltered.value field :=
    sets field fun member => other (List.mem_map_of_mem member)
  have text (field : TextField) (other : filterOf (.text field) ∉ family.filters) :
      criteria.text field = none := by
    have null := unset (.text field) other
    cases given : criteria.text field with
    | none => rfl
    | some text => simp [Criteria.value, given, Criteria.unfiltered, Value.ofText?] at null
  have tlds (other : filterOf .tld ∉ family.filters) : criteria.tlds = [] := by
    simpa [Criteria.value, Criteria.unfiltered] using unset .tld other
  have lifecycle (other : filterOf .lifecycle ∉ family.filters) : criteria.lifecycle = none := by
    have null := unset .lifecycle other
    cases given : criteria.lifecycle with
    | none => rfl
    | some state => simp [Criteria.value, given, Criteria.unfiltered, Value.ofText?] at null
  have spamhaus (other : filterOf .safeSpamhausOnly ∉ family.filters) :
      criteria.safeSpamhausOnly = false := by
    simpa [Criteria.value, Criteria.unfiltered] using unset .safeSpamhausOnly other
  have views (other : filterOf .safeViewsTotalOnly ∉ family.filters) :
      criteria.safeViewsTotalOnly = false := by
    simpa [Criteria.value, Criteria.unfiltered] using unset .safeViewsTotalOnly other
  obtain ⟨texts, terms, state, listed, viewed⟩ := criteria
  simp only [keeping, Criteria.mk.injEq, decide_eq_true_eq]
  refine ⟨funext fun field => ?_, ?_, ?_, ?_, ?_⟩
  · by_cases kept : filterOf (.text field) ∈ family.filters <;> simp_all
  · by_cases kept : filterOf .tld ∈ family.filters <;> simp_all
  · by_cases kept : filterOf .lifecycle ∈ family.filters <;> simp_all
  · by_cases kept : filterOf .safeSpamhausOnly ∈ family.filters <;> simp_all
  · by_cases kept : filterOf .safeViewsTotalOnly ∈ family.filters <;> simp_all

/-- Where a family is not supported, its filters have no columns to look at. -/
theorem columns_eq_nil {catalog : Catalog}
    (unsupported : family.supported (.resolve catalog) = false) :
    ∀ filter ∈ family.filters, filter.columns (.ofCatalog catalog) = [] := by
  -- What is said of the roles as they were resolved is said of the columns that a query looks for.
  cases family <;>
    simp_all [Family.supported, Family.filters, Family.fields, filterOf, Filter.columns,
      Filter.roles, Filter.fixedNames, Target.ofCatalog, RoleMap.supportsLifecycle,
      RoleMap.column?_resolve]

/-- A family that is not supported adds no condition. -/
theorem conditions_of_unsupported {catalog : Catalog} (sets : family.SetsOnly criteria)
    (unsupported : family.supported (.resolve catalog) = false) :
    (compile criteria (.ofCatalog catalog)).conditions = [] := by
  -- The criteria keep nothing but the filters of the family, and these have no columns.
  rw [← keeping_eq_self sets, conditions_of_keeping, List.flatMap_eq_nil_iff]
  intro filter kept
  have ours : filter ∈ family.filters := by simpa using (List.mem_filter.mp kept).2
  exact conditions_eq_nil (columns_eq_nil unsupported filter ours) criteria

end Unsupported

section Supported

variable {family : Family} {criteria : Criteria} {target : Target}

theorem onColumn_ne_nil {role : Role} {field : TextField} (plays : (target.roles.column? role).isSome)
    (filled : Family.Filled criteria field) (condition : String → String → Predicate) :
    onColumn (target.roles.column? role) (given? criteria field) condition ≠ [] := by
  obtain ⟨column, found⟩ := Option.isSome_iff_exists.mp plays
  obtain ⟨text, given, solid⟩ := filled
  have set : given? criteria field = some text := by
    rw [given?, given, Option.filter_some, if_pos (by simpa using solid)]
  simp [onColumn, found, set]

theorem ageConditions_ne_nil {field : TextField} (aged : Family.Aged criteria field)
    (ages : field = .ageYearsFrom ∨ field = .ageYearsTo) (column : String) :
    ageConditions criteria column ≠ [] := by
  have known : (years? (criteria.text field)).isSome = true := by
    obtain ⟨text, given, finite⟩ := aged
    simp [isSome_years?, given, finite]
  obtain ⟨years, read⟩ := Option.isSome_iff_exists.mp known
  -- Two ages may change places, but neither of them gets lost.
  rcases ages with rfl | rfl
  · cases other : years? (criteria.text .ageYearsTo) with
    | none => simp [ageConditions, orderedAges, read, other]
    | some more => by_cases order : years > more <;> simp [ageConditions, orderedAges, read, other, order]
  · cases other : years? (criteria.text .ageYearsFrom) with
    | none => simp [ageConditions, orderedAges, read, other]
    | some less => by_cases order : less > years <;> simp [ageConditions, orderedAges, read, other, order]

theorem tldConditions_ne_nil
    (plays : (target.roles.column? .tld).isSome ∨ (target.roles.column? .domain).isSome)
    {terms : List String} (some : terms ≠ []) : tldConditions target terms ≠ [] := by
  cases terms with
  | nil => exact absurd rfl some
  | cons term more =>
    cases own : target.roles.column? .tld with
    | some column => simp [tldConditions, own]
    | none =>
      obtain ⟨column, found⟩ : ∃ column, target.roles.column? .domain = Option.some column := by
        simpa [own, Option.isSome_iff_exists] using plays
      simp [tldConditions, own, found]

theorem safetyConditions_ne_nil {role : Role} (plays : (target.roles.column? role).isSome) :
    safetyConditions target true role ≠ [] := by
  obtain ⟨column, found⟩ := Option.isSome_iff_exists.mp plays
  simp [safetyConditions, found]

/-- In a family that is supported, a filter whose field says something has a condition. -/
theorem exists_conditions {catalog : Catalog}
    (supported : family.supported (.resolve catalog) = true) (other : family ≠ .lifecycle)
    (effective : family.Effective criteria) :
    ∃ filter : Filter, filter.conditions (.ofCatalog catalog) criteria ≠ [] := by
  have plays (role : Role) (given : ((RoleMap.resolve catalog).given role).isSome = true) :
      ((Target.ofCatalog catalog).roles.column? role).isSome := by
    rw [Target.ofCatalog, RoleMap.column?_resolve]
    exact given
  cases family with
  | lifecycle => exact absurd rfl other
  | ageRange =>
    obtain ⟨column, found⟩ := Option.isSome_iff_exists.mp (plays .created supported)
    refine ⟨.age, ?_⟩
    simp only [Filter.conditions, found, Option.map_some, Option.getD_some]
    rcases effective with aged | aged
    · exact ageConditions_ne_nil aged (.inl rfl) column
    · exact ageConditions_ne_nil aged (.inr rfl) column
  | creationDateRange =>
    rcases effective with filled | filled
    · exact ⟨.createdFrom, onColumn_ne_nil (plays .created supported) filled _⟩
    · exact ⟨.createdTo, onColumn_ne_nil (plays .created supported) filled _⟩
  | keywords =>
    rcases effective with filled | filled
    · exact ⟨.startsWith, onColumn_ne_nil (plays .domain supported) filled _⟩
    · exact ⟨.endsWith, onColumn_ne_nil (plays .domain supported) filled _⟩
  | tld =>
    obtain ⟨term, listed, filled⟩ := effective
    have terms : tldTerms criteria ≠ [] := by
      apply List.ne_nil_of_mem (a := normalizeTld term)
      simp only [tldTerms, List.mem_filter, List.mem_map]
      exact ⟨⟨term, listed, rfl⟩, by simpa using filled⟩
    have either := Bool.or_eq_true_iff.mp supported
    exact ⟨.tld, tldConditions_ne_nil (either.imp (plays .tld) (plays .domain)) terms⟩
  | wayback => exact ⟨.waybackMin, onColumn_ne_nil (plays .wayback supported) effective _⟩
  | spamhaus =>
    refine ⟨.safeSpamhaus, ?_⟩
    simp only [Filter.conditions, show criteria.safeSpamhausOnly = true from effective]
    exact safetyConditions_ne_nil (plays .spamhaus supported)
  | viewsTotal =>
    refine ⟨.safeViews, ?_⟩
    simp only [Filter.conditions, show criteria.safeViewsTotalOnly = true from effective]
    exact safetyConditions_ne_nil (plays .viewsTotal supported)

/-- Where deletion is told by no column, neither a flag nor a moment nor a status is there. -/
theorem columns_of_deletion?_eq_none (untold : deletion? target = none) :
    target.roles.column? .deletedFlag = none ∧ target.roles.column? .deletedAt = none ∧
      target.roles.column? .status = none := by
  cases flag : target.roles.column? .deletedFlag <;>
    cases moment : target.roles.column? .deletedAt <;>
      simp_all [deletion?]

/-- Where the lifecycle is supported, some state has a condition. -/
theorem exists_lifecycleConditions (supported : target.roles.supportsLifecycle = true) :
    ∃ state, ∀ days, lifecycleConditions state days target ≠ [] := by
  cases told : deletion? target with
  | some evidence => exact ⟨.deleted, fun days => by simp [lifecycleConditions, told]⟩
  | none =>
    -- What is left is a column with the end of a domain, and that tells expiry.
    obtain ⟨noFlag, noMoment, noStatus⟩ := columns_of_deletion?_eq_none told
    have ends : (endColumn? target).isSome = true := by
      simpa [RoleMap.supportsLifecycle, endColumn?, noFlag, noMoment, noStatus, or_comm] using supported
    obtain ⟨column, found⟩ := Option.isSome_iff_exists.mp ends
    exact ⟨.expiring, fun days => by simp [lifecycleConditions, expiring?, found]⟩

end Supported

/-! ### Agreement -/

/-- A sample is some values, and asking for it changes nothing but what was asked. -/
theorem run_sample {ε : Type} (database : Database) (ref : TableRef) (column : String)
    (explorer : Explorer) :
    ∃ values, (Explorer.sample database ref column : Exploring ε (List Value)).run explorer =
      (.ok values, explorer.noted (distinctStatement ref column)) := by
  cases answer : database (distinctStatement ref column) >>= readSample with
  | ok values =>
    refine ⟨values, ?_⟩
    unfold Explorer.sample
    simp only [answer]
    rfl
  | error failure =>
    refine ⟨[], ?_⟩
    unfold Explorer.sample
    simp only [answer]
    rfl

/-- Capabilities are told of the catalog that searches go by, then and afterwards. -/
theorem discovered (database : Database) (explorer : Explorer) :
    ∃ found after, (discover database : Exploring ViewError Capabilities).run explorer =
        (.ok found, after) ∧
      found.catalog = explorer.inForce database ∧ found.roles = .resolve found.catalog ∧
        after.inForce database = found.catalog := by
  unfold discover
  rw [Explorer.run_bind_ok (Explorer.run_current database explorer)]
  generalize known : explorer.inForce database = catalog
  dsimp only
  rw [Explorer.run_bind_ok Explorer.run_get]
  cases (RoleMap.resolve catalog).column? .status with
  | none => exact ⟨_, _, rfl, rfl, rfl, known⟩
  | some column =>
    obtain ⟨values, run⟩ := run_sample (ε := ViewError) database (explorer.informed database).table
      column (explorer.informed database)
    dsimp only
    rw [Explorer.run_bind_ok run]
    exact ⟨_, _, rfl, rfl, rfl, known⟩

theorem fragments_ne_nil {compiled : Compiled} (some : compiled.conditions ≠ []) :
    compiled.fragments ≠ [] := by
  obtain ⟨conditions, selection⟩ := compiled
  cases conditions with
  | nil => exact absurd rfl some
  | cons p rest => simp [Compiled.fragments, Predicate.texts]

/-- A filter with a condition gives the query one. -/
theorem conditions_ne_nil {criteria : Criteria} {target : Target} {filter : Filter}
    (some : filter.conditions target criteria ≠ []) : (compile criteria target).conditions ≠ [] := by
  have listed : filter ∈ Filter.all := by cases filter <;> decide
  intro none
  exact some (List.flatMap_eq_nil_iff.mp none filter listed)

/-- What is told about a family, and what queries do with it. -/
structure Agrees (catalog : Catalog) (family : Family) : Prop where
  /-- Without support nothing that is set in the family reaches the query. -/
  unsupported : family.supported (.resolve catalog) = false →
    ∀ criteria, family.SetsOnly criteria →
      (compile criteria (.ofCatalog catalog)).fragments = [] ∧
        (compile criteria (.ofCatalog catalog)).parameters = []
  /-- With support whatever says something in the family does. -/
  supported : family.supported (.resolve catalog) = true → family ≠ .lifecycle →
    ∀ criteria, family.Effective criteria →
      (compile criteria (.ofCatalog catalog)).fragments ≠ []
  /-- Of the lifecycle at least one state does. -/
  lifecycle : family.supported (.resolve catalog) = true → family = .lifecycle →
    ∃ state, ∀ criteria : Criteria, criteria.lifecycle = some state →
      (compile criteria (.ofCatalog catalog)).fragments ≠ []

/-- What is told of a table is what queries against it do. -/
theorem supports_agree (catalog : Catalog) (family : Family) : Agrees catalog family := by
  constructor
  case unsupported =>
    intro unsupported criteria sets
    have nothing := conditions_of_unsupported sets unsupported
    simp [Compiled.fragments, Compiled.parameters, nothing, Predicate.texts, Predicate.allValues]
  case supported =>
    intro supported other criteria effective
    obtain ⟨filter, some⟩ := exists_conditions supported other effective
    exact fragments_ne_nil (conditions_ne_nil some)
  case lifecycle =>
    rintro supported rfl
    obtain ⟨state, told⟩ := @exists_lifecycleConditions (.ofCatalog catalog) supported
    refine ⟨state, fun criteria chosen => ?_⟩
    have some : Filter.lifecycle.conditions (.ofCatalog catalog) criteria ≠ [] := by
      simpa [Filter.conditions, chosen] using told _
    exact fragments_ne_nil (conditions_ne_nil some)

end DomainScout.View
