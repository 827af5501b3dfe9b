import DomainScout.Criteria.Reading
import DomainScout.Proofs.Query.Ages
import DomainScout.Proofs.Sql.Number

/-!
# Numbers that a query computes

All that a query binds are texts of the client, but for the days to look ahead and the two ages: these
are numbers that it computes from texts, and each is cast to an integer where it stands. They are bounded
below and not above. So a number of the client that no integer of the database can hold is bound as it
is, and then the cast fails in every row.

Main statement: `computed_numbers`.
-/
namespace DomainScout.Query

open Sql Criteria Binary64

variable {criteria : Criteria} {target : Target} {column : String}

/-! ### Filters without numbers -/

theorem numbers_matchesAny {t : Term} (none : t.numbers = []) (first : String) (more : List String) :
    (matchesAny t first more).numbers = [] := by
  simp [matchesAny, Predicate.numbers, Predicate.numbers_anyOf, none, pattern, Term.numbers]

theorem numbers_flagSet (target : Target) (column : String) : (flagSet target column).numbers = [] := by
  unfold flagSet
  split <;> rfl

theorem numbers_notFlagged (target : Target) (column : String) :
    (notFlagged target column).numbers = [] := by
  unfold notFlagged
  split <;> rfl

theorem numbers_deletion? {p : Predicate} (derived : deletion? target = some p) : p.numbers = [] := by
  revert derived
  unfold deletion?
  -- Each of the three columns may be there or not; where the first two are missing the status tells.
  cases target.roles.column? .deletedFlag with
  | none =>
    cases target.roles.column? .deletedAt with
    | none =>
      cases target.roles.column? .status with
      | none => rintro ⟨⟩
      | some status =>
        rintro ⟨⟩
        exact numbers_matchesAny rfl _ _
    | some moment =>
      rintro ⟨⟩
      rfl
  | some flag =>
    cases target.roles.column? .deletedAt with
    | none =>
      rintro ⟨⟩
      exact numbers_flagSet target flag
    | some moment =>
      rintro ⟨⟩
      have none := numbers_flagSet target flag
      simp [Predicate.anyOf, Predicate.numbers, none, deletionRecorded, filledText, textOf, Term.numbers]

theorem numbers_active? {p : Predicate} (derived : active? target = some p) : p.numbers = [] := by
  revert derived
  unfold active?
  cases target.roles.column? .expires with
  | none =>
    cases target.roles.column? .status with
    | none => rintro ⟨⟩
    | some status =>
      rintro ⟨⟩
      exact numbers_matchesAny rfl _ _
  | some expires =>
    cases target.roles.column? .status with
    | none =>
      rintro ⟨⟩
      rfl
    | some status =>
      rintro ⟨⟩
      exact numbers_matchesAny rfl _ _

theorem numbers_tldConditions (target : Target) (terms : List String) :
    (tldConditions target terms).flatMap Predicate.numbers = [] := by
  cases terms with
  | nil => rfl
  | cons term more =>
    unfold tldConditions
    cases target.roles.column? .tld with
    | some column => rfl
    | none =>
      cases target.roles.column? .domain with
      | none => rfl
      | some column =>
        simp [Predicate.numbers, Predicate.numbers_anyOf, domainUnder, pattern, Term.numbers]

theorem numbers_onColumn (column text : Option String) {condition : String → String → Predicate}
    (none : ∀ column text, (condition column text).numbers = []) :
    (onColumn column text condition).flatMap Predicate.numbers = [] := by
  unfold onColumn
  split
  · simp [none]
  · rfl

/-! ### Days and ages -/

/-- The days that a query looks ahead, if it does. -/
def dayNumbers (criteria : Criteria) (target : Target) : List Int :=
  if criteria.lifecycle = some .expiring ∧ (endColumn? target).isSome = true then
    [daysOfText (criteria.text .expiringWithinDays)]
  else []

/-- The ages that a query compares with, if it does, the least one first. -/
def ageNumbers (criteria : Criteria) (target : Target) : List Int :=
  let (least, most) :=
    orderedAges (years? (criteria.text .ageYearsFrom)) (years? (criteria.text .ageYearsTo))
  if (target.roles.column? .created).isSome = true then least.toList ++ most.toList else []

theorem flatMap_numbers_toList {p? : Option Predicate} (none : ∀ p, p? = some p → p.numbers = []) :
    p?.toList.flatMap Predicate.numbers = [] := by
  cases p? with
  | none => rfl
  | some p => simp [none p rfl]

theorem numbers_expiring? (days : Int) : (expiring? target days).toList.flatMap Predicate.numbers =
    if (endColumn? target).isSome = true then [(true, days)] else [] := by
  unfold expiring?
  cases endColumn? target with
  | some column => rfl
  | none =>
    apply flatMap_numbers_toList
    intro p derived
    obtain ⟨column, -, rfl⟩ := Option.map_eq_some_iff.mp derived
    exact numbers_matchesAny rfl _ _

theorem numbers_lifecycle (criteria : Criteria) (target : Target) :
    (Filter.lifecycle.conditions target criteria).flatMap Predicate.numbers =
      (dayNumbers criteria target).map (true, ·) := by
  have deleted : (deletion? target).toList.flatMap Predicate.numbers = [] :=
    flatMap_numbers_toList fun p => numbers_deletion?
  have negated : ((deletion? target).map Predicate.not).toList.flatMap Predicate.numbers = [] := by
    apply flatMap_numbers_toList
    intro p derived
    obtain ⟨q, evidence, rfl⟩ := Option.map_eq_some_iff.mp derived
    have none := numbers_deletion? evidence
    exact none
  have active : (active? target).toList.flatMap Predicate.numbers = [] :=
    flatMap_numbers_toList fun p => numbers_active?
  unfold Filter.conditions dayNumbers
  cases criteria.lifecycle with
  | none => rfl
  | some state =>
    cases state with
    | deleted => simp [lifecycleConditions, deleted]
    | active => simp [lifecycleConditions, negated, active]
    | expiring =>
      simp only [lifecycleConditions, List.flatMap_append, negated, numbers_expiring?]
      split <;> simp_all

theorem numbers_age (criteria : Criteria) (target : Target) :
    (Filter.age.conditions target criteria).flatMap Predicate.numbers =
      (ageNumbers criteria target).map (true, ·) := by
  unfold Filter.conditions ageNumbers
  cases target.roles.column? .created with
  | none => rfl
  | some column =>
    simp only [Option.map_some, Option.getD_some, ageConditions, Option.isSome_some, if_true]
    generalize orderedAges _ _ = ages
    obtain ⟨least, most⟩ := ages
    cases least <;> cases most <;> rfl

/-- The numbers of a query: the days to look ahead, then the ages. -/
def computed (criteria : Criteria) (target : Target) : List Int :=
  dayNumbers criteria target ++ ageNumbers criteria target

theorem numbers_safetyConditions (target : Target) (on : Bool) (role : Role) :
    (safetyConditions target on role).flatMap Predicate.numbers = [] := by
  unfold safetyConditions
  split
  · apply flatMap_numbers_toList
    intro p derived
    obtain ⟨column, -, rfl⟩ := Option.map_eq_some_iff.mp derived
    exact numbers_notFlagged target column
  · rfl

theorem numbers_conditions (criteria : Criteria) (target : Target) (filter : Filter) :
    (filter.conditions target criteria).flatMap Predicate.numbers =
      match filter with
      | .lifecycle => (dayNumbers criteria target).map (true, ·)
      | .age => (ageNumbers criteria target).map (true, ·)
      | _ => [] := by
  cases filter with
  | lifecycle => exact numbers_lifecycle criteria target
  | age => exact numbers_age criteria target
  | tld => exact numbers_tldConditions target _
  | safeSpamhaus | safeViews => exact numbers_safetyConditions target _ _
  | startsWith | endsWith | createdFrom | createdTo | country | registrar | technologies
  | responseStatus | hostsMin | hostsMax | expiresFrom | expiresTo | waybackMin =>
    exact numbers_onColumn _ _ fun column text => rfl

/-- All numbers that are bound are computed, and each is cast to an integer. -/
theorem numbers_compile (criteria : Criteria) (target : Target) :
    (compile criteria target).conditions.flatMap Predicate.numbers =
      (computed criteria target).map (true, ·) := by
  rw [compile, List.flatMap_assoc, funext (numbers_conditions criteria target), computed,
    List.map_append]
  simp [Filter.all]

theorem mem_parameters_iff (n : Int) :
    Value.int n ∈ (compile criteria target).parameters ↔ n ∈ computed criteria target := by
  have bound : Value.int n ∈ (compile criteria target).parameters ↔
      ∃ cast, (cast, n) ∈ (compile criteria target).conditions.flatMap Predicate.numbers := by
    simp only [Compiled.parameters, Predicate.allValues, List.mem_flatMap, Predicate.mem_values_iff]
    grind
  rw [bound, numbers_compile]
  simp

/-- Some condition fails for a number that is too great for an integer. -/
theorem exists_fails {δ : Type} {engine : Engine δ} {n : Int} (holds : HoldsIntegers engine)
    (member : n ∈ computed criteria target) (great : greatestInteger < n) :
    ∃ p ∈ (compile criteria target).conditions, ∀ row, p.eval engine row = .error ⟨⟩ := by
  have listed : (true, n) ∈ (compile criteria target).conditions.flatMap Predicate.numbers := by
    rw [numbers_compile]
    exact List.mem_map_of_mem member
  obtain ⟨p, condition, member⟩ := List.mem_flatMap.mp listed
  exact ⟨p, condition, fun row => Predicate.eval_fails holds great member⟩

/-! ### What they are computed from -/

/-- A field whose number a query computes. -/
def Uses (target : Target) (criteria : Criteria) : TextField → Prop
  | .expiringWithinDays => criteria.lifecycle = some .expiring ∧ (endColumn? target).isSome = true
  | .ageYearsFrom | .ageYearsTo => (target.roles.column? .created).isSome = true
  | _ => False

/-- The number that a query computes from a field. -/
def readingOf? (criteria : Criteria) : TextField → Option Int
  | .expiringWithinDays => some (daysOfText (criteria.text .expiringWithinDays))
  | field => years? (criteria.text field)

theorem mem_orderedAges (first second : Option Int) (n : Int) :
    n ∈ (orderedAges first second).1.toList ++ (orderedAges first second).2.toList ↔
      first = some n ∨ second = some n := by
  cases first with
  | none => simp [orderedAges_none_left]
  | some m =>
    cases second with
    | none => simp [orderedAges_none_right, eq_comm]
    | some k =>
      rw [orderedAges_some]
      simp only [Option.toList_some, List.mem_append, List.mem_singleton, Option.some.injEq]
      omega

theorem mem_dayNumbers_iff (n : Int) : n ∈ dayNumbers criteria target ↔
    Uses target criteria .expiringWithinDays ∧ readingOf? criteria .expiringWithinDays = some n := by
  unfold dayNumbers Uses readingOf?
  split
  next used => simp [used, eq_comm]
  next unused => simp [unused]

theorem mem_ageNumbers_iff (n : Int) : n ∈ ageNumbers criteria target ↔
    Uses target criteria .ageYearsFrom ∧ readingOf? criteria .ageYearsFrom = some n ∨
      Uses target criteria .ageYearsTo ∧ readingOf? criteria .ageYearsTo = some n := by
  unfold ageNumbers Uses readingOf?
  simp only
  split
  next used => simp only [mem_orderedAges, used, true_and]
  next unused => simp [unused]

/-- What a query computes are the numbers of the fields that it uses. -/
theorem mem_computed_iff (n : Int) : n ∈ computed criteria target ↔
    ∃ field, Uses target criteria field ∧ readingOf? criteria field = some n := by
  rw [computed, List.mem_append, mem_dayNumbers_iff, mem_ageNumbers_iff]
  constructor
  · rintro (days | first | second)
    · exact ⟨_, days⟩
    · exact ⟨_, first⟩
    · exact ⟨_, second⟩
  · rintro ⟨field, used, reading⟩
    cases field with
    | expiringWithinDays => exact .inl ⟨used, reading⟩
    | ageYearsFrom => exact .inr (.inl ⟨used, reading⟩)
    | ageYearsTo => exact .inr (.inr ⟨used, reading⟩)
    | _ => cases used

theorem readingOf?_of_some {field : TextField} {q : ℚ} (used : Uses target criteria field)
    (number : (criteria.text field).bind numberOf? = some q) : readingOf? criteria field =
      some (max (if field = .expiringWithinDays then 1 else 0) (towardZero q)) := by
  cases field with
  | expiringWithinDays =>
    simp only [readingOf?, daysOfText_eq, number]
    rfl
  | ageYearsFrom | ageYearsTo =>
    simp only [readingOf?, years?_eq_map, number]
    rfl
  | _ => cases used

theorem readingOf?_of_none {field : TextField} (used : Uses target criteria field)
    (missing : (criteria.text field).bind numberOf? = none) :
    readingOf? criteria field = if field = .expiringWithinDays then some 30 else none := by
  cases field with
  | expiringWithinDays =>
    simp only [readingOf?, daysOfText_eq, missing]
    rfl
  | ageYearsFrom | ageYearsTo =>
    simp only [readingOf?, years?_eq_map, missing]
    rfl
  | _ => cases used

/-- A number that a query computes is that of a field, but for its bound below, or the days without
one. -/
theorem reading_cases {field : TextField} {n : Int} (used : Uses target criteria field)
    (reading : readingOf? criteria field = some n) :
    (∃ q, (criteria.text field).bind numberOf? = some q ∧
        n = max (if field = .expiringWithinDays then 1 else 0) (towardZero q)) ∨ n = defaultDays := by
  cases number : (criteria.text field).bind numberOf? with
  | some q =>
    rw [readingOf?_of_some used number] at reading
    exact .inl ⟨q, rfl, (Option.some.inj reading).symm⟩
  | none =>
    rw [readingOf?_of_none used number] at reading
    split at reading
    · exact .inr (Option.some.inj reading).symm
    · cases reading

/-- The numbers that a query computes. -/
structure ComputedNumbers (criteria : Criteria) (target : Target) : Prop where
  /-- No other numbers are bound, and each is cast to an integer where it stands. -/
  cast : (compile criteria target).conditions.flatMap Predicate.numbers =
    (computed criteria target).map (true, ·)
  bound (n : Int) : Value.int n ∈ (compile criteria target).parameters ↔ n ∈ computed criteria target
  /-- They are bounded below. -/
  least (n : Int) : n ∈ computed criteria target → 0 ≤ n
  /-- Each is what its bound below makes of the number of a field, or the days without one. -/
  source (n : Int) : n ∈ computed criteria target ↔
    ∃ field, Uses target criteria field ∧ readingOf? criteria field = some n
  reading (field : TextField) (q : ℚ) : Uses target criteria field →
    (criteria.text field).bind numberOf? = some q → readingOf? criteria field =
      some (max (if field = .expiringWithinDays then 1 else 0) (towardZero q))
  missing (field : TextField) : Uses target criteria field →
    (criteria.text field).bind numberOf? = none →
      readingOf? criteria field = if field = .expiringWithinDays then some 30 else none
  /-- They are integers of the database exactly if the numbers of all used fields are small enough. -/
  fit : (∀ n, Value.int n ∈ (compile criteria target).parameters → 0 ≤ n ∧ n ≤ greatestInteger) ↔
    ∀ field q, Uses target criteria field → (criteria.text field).bind numberOf? = some q →
      towardZero q ≤ greatestInteger
  /-- The cast of a greater one fails, in whatever row. -/
  fails {δ : Type} (engine : Engine δ) (n : Int) : HoldsIntegers engine →
    n ∈ computed criteria target → greatestInteger < n →
    ∃ p ∈ (compile criteria target).conditions, ∀ row, p.eval engine row = .error ⟨⟩

theorem computed_numbers (criteria : Criteria) (target : Target) : ComputedNumbers criteria target where
  cast := numbers_compile criteria target
  bound n := mem_parameters_iff n
  least n member := by
    obtain ⟨field, used, reading⟩ := (mem_computed_iff n).mp member
    rcases reading_cases used reading with ⟨q, -, rfl⟩ | rfl
    · split <;> omega
    · decide
  source n := mem_computed_iff n
  reading field q used number := readingOf?_of_some used number
  missing field used missing := readingOf?_of_none used missing
  fit := by
    constructor
    · intro all field q used number
      have member := (mem_computed_iff _).mpr ⟨field, used, readingOf?_of_some used number⟩
      exact (le_max_right _ _).trans (all _ ((mem_parameters_iff _).mpr member)).2
    · intro small n bound
      -- The days without a number are few, so only a field can make a number too great.
      obtain ⟨field, used, reading⟩ := (mem_computed_iff n).mp ((mem_parameters_iff n).mp bound)
      rcases reading_cases used reading with ⟨q, number, rfl⟩ | rfl
      · have le := small field q used number
        unfold greatestInteger at le ⊢
        split <;> omega
      · decide
  fails engine n holds member great := exists_fails holds member great

/-- For an age of three thousand million years the search fails, whatever is in the table. -/
theorem too_many_years : ∃ criteria,
    ofValue (.object [("ageYearsFrom", .int 3000000000)]) = .ok criteria ∧
      Value.int 3000000000 ∈ (compile criteria (textTable ["domain", "created_at"])).parameters ∧
      (compile criteria (textTable ["domain", "created_at"])).conditions.flatMap Predicate.numbers =
        [(true, 3000000000)] ∧
      ¬ (3000000000 : Int) ≤ greatestInteger ∧
      ∃ engine : Engine Value, HoldsIntegers engine ∧
        ∃ p ∈ (compile criteria (textTable ["domain", "created_at"])).conditions,
          ∀ row, p.eval engine row = .error ⟨⟩ := by
  have clean : problems [("ageYearsFrom", .int 3000000000)] = [] := by decide +kernel
  have years : computed (ofFields [("ageYearsFrom", .int 3000000000)])
      (textTable ["domain", "created_at"]) = [3000000000] := by decide +kernel
  have great : greatestInteger < 3000000000 := by decide
  refine ⟨ofFields [("ageYearsFrom", .int 3000000000)], ?_, ?_, ?_, by decide, _,
    holdsIntegers_ofValues, ?_⟩
  · rw [ofValue, clean]
  · rw [mem_parameters_iff, years]
    exact List.mem_singleton_self _
  · rw [numbers_compile, years]
    rfl
  · exact exists_fails holdsIntegers_ofValues (by simp [years]) great

end DomainScout.Query
