import DomainScout.Proofs.Query.Composition
import DomainScout.Proofs.Query.Quantity
import DomainScout.Proofs.Query.Deletion

/-!
# Ranges of ages

Two ages bound how old a domain may be. Whichever of them is the smaller one is the least age, so
that the range is never inverted and the two may be exchanged. An age that is no finite number bounds
nothing, and then the other one stays the bound that it is given as.

Main statement: `ages_ordered`.
-/
namespace DomainScout.Query

open Sql Criteria Binary64

/-- The criteria with other texts for the two ages. -/
def withAges (criteria : Criteria) (first second : Option String) : Criteria :=
  { criteria with
    text := fun field =>
      match field with
      | .ageYearsFrom => first
      | .ageYearsTo => second
      | other => criteria.text other }

/-- The column has a date that lies at least some years back. -/
def atLeastYears (column : String) (years : Int) : Predicate :=
  .compare (readAs .date column) .le (yearsBack years)

/-- The column has a date that lies at most some years back. -/
def atMostYears (column : String) (years : Int) : Predicate :=
  .compare (readAs .date column) .ge (yearsBack years)

variable {criteria : Criteria} {target : Target} {column : String} {a b : Option String} {q r : ℚ}

/-! ### Two ages in order -/

theorem orderedAges_some (m n : Int) :
    orderedAges (some m) (some n) = (some (min m n), some (max m n)) := by
  unfold orderedAges
  simp only
  split
  · rw [min_eq_right (by omega), max_eq_left (by omega)]
  · rw [min_eq_left (by omega), max_eq_right (by omega)]

theorem orderedAges_none_left (age : Option Int) : orderedAges none age = (none, age) := by
  unfold orderedAges
  rfl

theorem orderedAges_none_right (age : Option Int) : orderedAges age none = (age, none) := by
  cases age <;> rfl

/-! ### Their conditions -/

/-- A date that is compared with one some years back. -/
theorem text_yearsBack (column : String) (comparison : Comparison) (years : Int) (before : Nat) :
    (Predicate.compare (readAs .date column) comparison (yearsBack years)).text before =
      "TRY_CAST(NULLIF(" ++ quoteIdent column ++ "::text, '') AS DATE) " ++ comparison.sign ++
        " CURRENT_DATE - CAST(" ++ placeholder before ++ " AS INTEGER) * INTERVAL '1 year'" := by
  apply String.toList_injective
  simp [Predicate.text, readAs, filledText, textOf, yearsBack, Term.text, Term.values, SqlType.name]

/-- The ages are read by one filter only. -/
theorem conditions_withAges {filter : Filter} (other : filter ≠ .age) :
    filter.conditions target (withAges criteria a b) = filter.conditions target criteria := by
  cases filter with
  | age => exact absurd rfl other
  | _ => rfl

/-- The conditions of the ages are those of the least and of the greatest one. -/
theorem conditions_age (created : target.roles.column? .created = some column) :
    Filter.age.conditions target (withAges criteria a b) =
      ((orderedAges (years? a) (years? b)).1.map (atLeastYears column)).toList ++
        ((orderedAges (years? a) (years? b)).2.map (atMostYears column)).toList := by
  rw [Filter.conditions, created]
  rfl

/-- Whatever the ages are, the same conditions come before theirs, and the same ones behind them. -/
theorem conditions_split (criteria : Criteria) (target : Target) : ∃ before after : List Predicate,
    ∀ a b, (compile (withAges criteria a b) target).conditions =
      before ++ (Filter.age.conditions target (withAges criteria a b) ++ after) := by
  -- The filter of the ages comes once, so none before it or behind it reads them.
  obtain ⟨earlier, later, all, apart, apart'⟩ : ∃ earlier later, Filter.all = earlier ++ .age :: later ∧
      (∀ filter ∈ earlier, filter ≠ .age) ∧ ∀ filter ∈ later, filter ≠ .age :=
    ⟨Filter.all.takeWhile (· ≠ .age), (Filter.all.dropWhile (· ≠ .age)).tail, by decide, by decide,
      by decide⟩
  refine ⟨earlier.flatMap (Filter.conditions target criteria),
    later.flatMap (Filter.conditions target criteria), fun a b => ?_⟩
  have others {filters : List Filter} (apart : ∀ filter ∈ filters, filter ≠ .age) :
      filters.flatMap (Filter.conditions target (withAges criteria a b)) =
        filters.flatMap (Filter.conditions target criteria) :=
    List.flatMap_congr fun filter member => conditions_withAges (apart filter member)
  rw [compile, all, List.flatMap_append, List.flatMap_cons, others apart, others apart']

theorem wholeYears_nonneg (q : ℚ) : 0 ≤ wholeYears q := le_max_left 0 _

/-- The conditions that two ages make on the column of the date of creation. -/
structure AgeRange (criteria : Criteria) (target : Target) (column : String) : Prop where
  /-- They stand together, between conditions on which the ages have no influence. -/
  placed : ∃ before after : List Predicate, ∀ a b,
    (compile (withAges criteria a b) target).conditions =
      before ++ (Filter.age.conditions target (withAges criteria a b) ++ after)
  /-- Two finite numbers make one upper and one lower bound, with the least age first. -/
  both (a b : String) (q r : ℚ) : numberOf? a = some q → numberOf? b = some r → ∃ m n,
    m = min (wholeYears q) (wholeYears r) ∧ n = max (wholeYears q) (wholeYears r) ∧
      0 ≤ m ∧ m ≤ n ∧ Filter.age.conditions target (withAges criteria (some a) (some b)) =
        [atLeastYears column m, atMostYears column n]
  /-- Exchanging them makes no difference to the query. -/
  exchanged (a b : String) : (numberOf? a).isSome → (numberOf? b).isSome →
    compile (withAges criteria (some a) (some b)) target =
      compile (withAges criteria (some b) (some a)) target
  /-- One finite number makes its own bound only. -/
  first (a : String) (b : Option String) (q : ℚ) : numberOf? a = some q → b.bind numberOf? = none →
    Filter.age.conditions target (withAges criteria (some a) b) = [atLeastYears column (wholeYears q)]
  second (a : Option String) (b : String) (r : ℚ) : a.bind numberOf? = none → numberOf? b = some r →
    Filter.age.conditions target (withAges criteria a (some b)) = [atMostYears column (wholeYears r)]
  neither (a b : Option String) : a.bind numberOf? = none → b.bind numberOf? = none →
    Filter.age.conditions target (withAges criteria a b) = []
  /-- Both bounds are on the date in the column, and their years are bound. -/
  written (years : Int) (before : Nat) :
    (atLeastYears column years).text before = "TRY_CAST(NULLIF(" ++ quoteIdent column ++
        "::text, '') AS DATE) " ++ "<=" ++ " CURRENT_DATE - CAST(" ++ placeholder before ++
        " AS INTEGER) * INTERVAL '1 year'" ∧
      (atMostYears column years).text before = "TRY_CAST(NULLIF(" ++ quoteIdent column ++
        "::text, '') AS DATE) " ++ ">=" ++ " CURRENT_DATE - CAST(" ++ placeholder before ++
        " AS INTEGER) * INTERVAL '1 year'" ∧
      (atLeastYears column years).values = [.int years] ∧
      (atMostYears column years).values = [.int years]

theorem conditions_of_both (created : target.roles.column? .created = some column) {a b : String}
    (first : numberOf? a = some q) (second : numberOf? b = some r) :
    Filter.age.conditions target (withAges criteria (some a) (some b)) =
      [atLeastYears column (min (wholeYears q) (wholeYears r)),
        atMostYears column (max (wholeYears q) (wholeYears r))] := by
  rw [conditions_age created, years?_eq_map, years?_eq_map, Option.bind_some, Option.bind_some, first,
    second, Option.map_some, Option.map_some, orderedAges_some]
  rfl

theorem ages_ordered (created : target.roles.column? .created = some column) :
    AgeRange criteria target column where
  placed := conditions_split criteria target
  both a b q r first second :=
    ⟨_, _, rfl, rfl, le_min (wholeYears_nonneg q) (wholeYears_nonneg r), min_le_max,
      conditions_of_both created first second⟩
  exchanged a b first second := by
    obtain ⟨q, first⟩ := Option.isSome_iff_exists.mp first
    obtain ⟨r, second⟩ := Option.isSome_iff_exists.mp second
    obtain ⟨before, after, split⟩ := conditions_split criteria target
    have same : (compile (withAges criteria (some a) (some b)) target).conditions =
        (compile (withAges criteria (some b) (some a)) target).conditions := by
      rw [split, split, conditions_of_both created first second, conditions_of_both created second first,
        min_comm, max_comm]
    exact congrArg (Compiled.mk · (projection target.roles target.catalog)) same
  first a b q first missing := by
    rw [conditions_age created, years?_eq_map, years?_eq_map, Option.bind_some, first, missing,
      Option.map_some, Option.map_none, orderedAges_none_right]
    rfl
  second a b r missing second := by
    rw [conditions_age created, years?_eq_map, years?_eq_map, Option.bind_some, second, missing,
      Option.map_some, Option.map_none, orderedAges_none_left]
    rfl
  neither a b missing missing' := by
    rw [conditions_age created, years?_eq_map, years?_eq_map, missing, missing', Option.map_none,
      orderedAges_none_left]
    rfl
  written years before :=
    ⟨text_yearsBack column .le years before, text_yearsBack column .ge years before, rfl, rfl⟩

/-- Ten years and less than none: the range is from none to ten. -/
theorem ages_ordered_inverted :
    (textTable ["domain", "created_at"]).roles.column? .created = some "created_at" ∧
      AgeRange Criteria.unfiltered (textTable ["domain", "created_at"]) "created_at" ∧
      ∃ q r, numberOf? "10" = some q ∧ numberOf? "-2.5" = some r ∧ wholeYears q = 10 ∧
        wholeYears r = 0 := by
  have created : (textTable ["domain", "created_at"]).roles.column? .created = some "created_at" := by
    decide +kernel
  obtain ⟨q, number, whole⟩ := exists_numberOf? (by decide +kernel : wholeOfText? "10" = some 10)
  obtain ⟨r, number', whole'⟩ := exists_numberOf? (by decide +kernel : wholeOfText? "-2.5" = some (-2))
  exact ⟨created, ages_ordered created, q, r, number, number', by simp [wholeYears, whole],
    by simp [wholeYears, whole']⟩

end DomainScout.Query
