import DomainScout.Proofs.Catalog.Role
import DomainScout.Query.Filter

/-!
# Which column plays a role

A role is played by the first column with the most telling of its known names that the table has, and
failing all of these by the first column that is likely to play it. Both are searches for the first
column with a property of its lower-case name, so the name that was found leads back to the same
column: any column before it with that name in another case would have been found instead.

Main statement: `Catalog.resolved`.
-/
namespace DomainScout

open Text

/-- The first column of a table with a property, and its place. -/
structure Catalog.IsFirst (catalog : Catalog) (has : Column → Prop) (place : Nat) (column : Column) :
    Prop where
  here : catalog.columns[place]? = some column
  own : has column
  before : ∀ other ∈ catalog.columns.take place, ¬ has other

namespace Catalog.IsFirst

variable {catalog : Catalog} {column : Column}

theorem find?_eq_some_iff {has : Column → Bool} :
    catalog.columns.find? has = some column ↔
      ∃ place, catalog.IsFirst (fun other => has other = true) place column := by
  rw [List.find?_eq_some_iff_append]
  constructor
  · rintro ⟨own, before, after, split, none⟩
    refine ⟨before.length, ?_, own, ?_⟩
    · simp [split]
    · intro other member
      rw [split, List.take_left] at member
      simpa using none other member
  · rintro ⟨place, here, own, none⟩
    obtain ⟨inside, rfl⟩ := List.getElem?_eq_some_iff.mp here
    refine ⟨own, catalog.columns.take place, catalog.columns.drop (place + 1), ?_, ?_⟩
    · rw [List.getElem_cons_drop, List.take_append_drop]
    · simpa using none

theorem congr {has also : Column → Prop} {place : Nat} (first : catalog.IsFirst has place column)
    (same : ∀ other, has other ↔ also other) : catalog.IsFirst also place column :=
  ⟨first.here, (same column).mp first.own,
    fun other member holds => first.before other member ((same other).mpr holds)⟩

/-- What decides by the lower-case name finds the column of that name. -/
theorem named {has : Column → Prop} {place : Nat} (first : catalog.IsFirst has place column)
    (byName : ∀ other, lower other.name = lower column.name → has other) :
    catalog.IsFirst (fun other => lower other.name = lower column.name) place column :=
  ⟨first.here, rfl, fun other member same => first.before other member (byName other same)⟩

end Catalog.IsFirst

theorem Text.occursIn_iff {part cs : List Char} : occursIn part cs = true ↔ part <:+: cs := by
  induction cs with
  | nil => simp [occursIn, List.isEmpty_iff]
  | cons c rest ih =>
    rw [occursIn, Bool.or_eq_true, List.isPrefixOf_iff_prefix, ih, List.infix_cons_iff]

namespace Role

variable {role : Role} {catalog : Catalog} {column : Column} {place : Nat}

/-- The column's name contains a fragment of the role, and it is not the name of a column that is left
out. -/
def Likely (role : Role) (column : Column) : Prop :=
  (∃ fragment ∈ role.fragments, fragment.toList <:+: (lower column.name).toList) ∧
    lower column.name ∉ role.excluded

theorem suits_iff : role.suits column = true ↔ role.Likely column := by
  simp [suits, Likely, occursIn_iff]

/-- A table has no column with some name, in whatever case. -/
def Lacks (catalog : Catalog) (name : String) : Prop :=
  ∀ other ∈ catalog.columns, lower other.name ≠ name

/-- The column that plays a role, and its place. -/
inductive Plays (role : Role) (catalog : Catalog) (place : Nat) (column : Column) : Prop where
  /-- It has a known name, and those that tell more are missing. -/
  | known {telling less : List String} {name : String}
      (order : role.candidates = telling ++ name :: less) (missing : ∀ other ∈ telling, Lacks catalog other)
      (first : catalog.IsFirst (fun other => lower other.name = name) place column)
  /-- All known names are missing. -/
  | likely (missing : ∀ name ∈ role.candidates, Lacks catalog name)
      (first : catalog.IsFirst role.Likely place column)

/-- Known names are in lower case. -/
theorem lower_eq_self (role : Role) : ∀ name ∈ role.candidates, lower name = name := by
  cases role <;> decide +kernel

theorem lookup_eq_some_iff {name : String} (known : name ∈ role.candidates) :
    catalog.column? name = some column ↔
      ∃ place, catalog.IsFirst (fun other => lower other.name = name) place column := by
  unfold Catalog.column?
  rw [Catalog.IsFirst.find?_eq_some_iff, role.lower_eq_self name known]
  simp only [beq_iff_eq]

theorem lookup_eq_none_iff {name : String} (known : name ∈ role.candidates) :
    catalog.column? name = none ↔ Lacks catalog name := by
  unfold Catalog.column? Lacks
  rw [List.find?_eq_none, role.lower_eq_self name known]
  simp only [beq_iff_eq]

theorem byCandidate_eq_none_iff :
    role.byCandidate catalog = none ↔ ∀ name ∈ role.candidates, Lacks catalog name := by
  unfold byCandidate
  rw [List.findSome?_eq_none_iff]
  exact forall₂_congr fun name known => lookup_eq_none_iff known

theorem byCandidate_eq_some_iff :
    role.byCandidate catalog = some column ↔
      ∃ telling name less place, role.candidates = telling ++ name :: less ∧
        (∀ other ∈ telling, Lacks catalog other) ∧
        catalog.IsFirst (fun other => lower other.name = name) place column := by
  unfold byCandidate
  rw [List.findSome?_eq_some_iff]
  constructor
  · rintro ⟨telling, name, less, order, found, missing⟩
    have known : ∀ other ∈ telling, other ∈ role.candidates := fun other member => by simp [order, member]
    have chosen : name ∈ role.candidates := by simp [order]
    obtain ⟨place, first⟩ := (lookup_eq_some_iff chosen).mp found
    exact ⟨telling, name, less, place, order,
      fun other member => (lookup_eq_none_iff (known other member)).mp (missing other member), first⟩
  · rintro ⟨telling, name, less, place, order, missing, first⟩
    have known : ∀ other ∈ telling, other ∈ role.candidates := fun other member => by simp [order, member]
    have chosen : name ∈ role.candidates := by simp [order]
    exact ⟨telling, name, less, order, (lookup_eq_some_iff chosen).mpr ⟨place, first⟩,
      fun other member => (lookup_eq_none_iff (known other member)).mpr (missing other member)⟩

theorem byFragment_eq_some_iff :
    role.byFragment catalog = some column ↔ ∃ place, catalog.IsFirst role.Likely place column := by
  unfold byFragment
  rw [Catalog.IsFirst.find?_eq_some_iff]
  simp only [suits_iff]

theorem byFragment_eq_none_iff :
    role.byFragment catalog = none ↔ ∀ column ∈ catalog.columns, ¬ role.Likely column := by
  unfold byFragment
  rw [List.find?_eq_none]
  simp only [suits_iff]

theorem column?_eq_some_iff :
    role.column? catalog = some column ↔ ∃ place, Plays role catalog place column := by
  unfold Role.column?
  rw [Option.or_eq_some_iff, byCandidate_eq_some_iff, byCandidate_eq_none_iff, byFragment_eq_some_iff]
  constructor
  · rintro (⟨telling, name, less, place, order, missing, first⟩ | ⟨missing, place, first⟩)
    · exact ⟨place, .known order missing first⟩
    · exact ⟨place, .likely missing first⟩
  · rintro ⟨place, ⟨order, missing, first⟩ | ⟨missing, first⟩⟩
    · exact .inl ⟨_, _, _, place, order, missing, first⟩
    · exact .inr ⟨missing, place, first⟩

theorem column?_eq_none_iff :
    role.column? catalog = none ↔
      (∀ name ∈ role.candidates, Lacks catalog name) ∧ ∀ column ∈ catalog.columns, ¬ role.Likely column := by
  unfold Role.column?
  rw [Option.or_eq_none_iff, byCandidate_eq_none_iff, byFragment_eq_none_iff]

/-- The name of the column that plays a role leads back to that column. -/
theorem Plays.isFirst (plays : Plays role catalog place column) :
    catalog.IsFirst (fun other => lower other.name = lower column.name) place column := by
  cases plays with
  | known _ _ first => exact first.named fun other same => same.trans first.own
  | likely _ first =>
    refine first.named fun other same => ?_
    unfold Likely
    rw [same]
    exact first.own

theorem Plays.column?_name (plays : Plays role catalog place column) :
    catalog.column? column.name = some column := by
  unfold Catalog.column?
  rw [Catalog.IsFirst.find?_eq_some_iff]
  simp only [beq_iff_eq]
  exact ⟨place, plays.isFirst⟩

theorem Plays.isBoolean_name (plays : Plays role catalog place column) :
    catalog.isBoolean column.name = column.isBoolean := by
  unfold Catalog.isBoolean
  rw [plays.column?_name]
  rfl

/-- A role without fragments is played under a known name. -/
theorem Plays.mem_candidates (plays : Plays role catalog place column) (exact : role.fragments = []) :
    lower column.name ∈ role.candidates := by
  cases plays with
  | known order _ first =>
    rw [order, first.own]
    simp
  | likely _ first =>
    obtain ⟨fragment, listed, -⟩ := first.own.1
    rw [exact] at listed
    cases listed

/-- What tells that a domain was deleted does not tell when it will be. -/
theorem Plays.notMem_excluded (plays : Plays .scheduledDelete catalog place column) :
    lower column.name ∉ deletedAt.candidates ++ deletedFlag.candidates := by
  cases plays with
  | @known telling less name order _ first =>
    have apart : ∀ name ∈ scheduledDelete.candidates,
        name ∉ deletedAt.candidates ++ deletedFlag.candidates := by decide
    rw [first.own]
    exact apart _ (order ▸ by simp)
  | likely _ first => exact first.own.2

end Role

namespace Catalog

open Role Query

/-- How the roles of a table are resolved. -/
structure Resolved (catalog : Catalog) : Prop where
  /-- What is found is the name of the column that plays the role. -/
  played : ∀ role name, (RoleMap.resolve catalog).given role = some name ↔
    ∃ place column, Plays role catalog place column ∧ column.name = name
  /-- Nothing is found where no column has a known name or is likely to play the role. -/
  unplayed : ∀ role, (RoleMap.resolve catalog).given role = none ↔
    (∀ name ∈ role.candidates, Lacks catalog name) ∧ ∀ column ∈ catalog.columns, ¬ role.Likely column
  /-- The name leads back to the column, which no other one of that name in any case precedes. -/
  again : ∀ role place column, Plays role catalog place column →
    catalog.column? column.name = some column ∧
      catalog.IsFirst (fun other => lower other.name = lower column.name) place column
  /-- Conditions on the column that plays a role go by the type of that column. -/
  typed : ∀ role place column, Plays role catalog place column →
    (flagSet (.ofCatalog catalog) column.name =
      if column.isBoolean then .ask (.column column.name) .isTrue
      else .compare (countOf column.name) .gt .zero) ∧
    (notFlagged (.ofCatalog catalog) column.name =
      if column.isBoolean then .ask (.column column.name) .isNotTrue
      else .group (.or (.ask (filledText column.name) .isNull)
        (.compare (readAs .integer column.name) .le .zero)))
  /-- The date of a deletion to come is in no column that tells an earlier one. -/
  apart : ∀ name, (RoleMap.resolve catalog).given .scheduledDelete = some name →
    (RoleMap.resolve catalog).given .deletedAt ≠ some name ∧
      (RoleMap.resolve catalog).given .deletedFlag ≠ some name

/-- The roles of every table are resolved so. -/
theorem resolved (catalog : Catalog) : Resolved catalog := by
  have played : ∀ role name, (RoleMap.resolve catalog).given role = some name ↔
      ∃ place column, Plays role catalog place column ∧ column.name = name := by
    intro role name
    simp only [RoleMap.resolve, Option.map_eq_some_iff, column?_eq_some_iff]
    constructor
    · rintro ⟨column, ⟨place, plays⟩, own⟩
      exact ⟨place, column, plays, own⟩
    · rintro ⟨place, column, plays, own⟩
      exact ⟨column, ⟨place, plays⟩, own⟩
  constructor
  case played => exact played
  case unplayed =>
    intro role
    simp only [RoleMap.resolve, Option.map_eq_none_iff, column?_eq_none_iff]
  case again =>
    intro role place column plays
    exact ⟨plays.column?_name, plays.isFirst⟩
  case typed =>
    intro role place column plays
    have type := plays.isBoolean_name
    constructor
    · rw [flagSet, Target.ofCatalog, type]
    · rw [notFlagged, Target.ofCatalog, type]
  case apart =>
    intro name scheduled
    obtain ⟨place, column, plays, rfl⟩ := (played _ _).mp scheduled
    have other := plays.notMem_excluded
    rw [List.mem_append, not_or] at other
    constructor
    · intro moment
      obtain ⟨place', column', plays', own⟩ := (played _ _).mp moment
      exact other.1 (own ▸ plays'.mem_candidates rfl)
    · intro flag
      obtain ⟨place', column', plays', own⟩ := (played _ _).mp flag
      exact other.2 (own ▸ plays'.mem_candidates rfl)

end Catalog

end DomainScout
