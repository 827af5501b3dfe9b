import DomainScout.Proofs.Sql.Truth
import DomainScout.Query.Lifecycle

/-!
# Deleted or not

Deletion comes first: the other two states exclude what tells it. A row of which that is unknown is
in none of the three states, since the negation of unknown is unknown again. A flag and a moment of
deletion answer for null, a status does not: where the status alone tells deletion, the rows without
one are lost to every search by state.

Main statement: `deletion_splits`.
-/
namespace DomainScout.Query

open Sql

variable {δ : Type} {engine : Engine δ} {row : String → Option δ}

/-! ### What the columns tell -/

theorem eval_textOf (column : String) :
    (textOf column).eval engine row = .ok ((row column).map engine.asText) := rfl

theorem eval_filledText (column : String) :
    (filledText column).eval engine row =
      .ok (((row column).map engine.asText).filter (!engine.isEmpty ·)) := rfl

/-- Text that is missing, empty or no number counts as zero. -/
theorem eval_countOf (column : String) : ∃ d, (countOf column).eval engine row = .ok (some d) :=
  ⟨_, rfl⟩

theorem definite_flagSet (target : Target) (column : String) :
    Definite engine row (flagSet target column) := by
  unfold flagSet
  split
  · exact definite_ask rfl .isTrue
  · obtain ⟨d, known⟩ : ∃ d, (countOf column).eval engine row = .ok (some d) := eval_countOf column
    exact definite_compare known rfl .gt

theorem definite_deletionRecorded (column : String) :
    Definite engine row (deletionRecorded column) :=
  definite_ask (eval_filledText column) .isNotNull

theorem eval_pattern (s : String) : ∃ d, (pattern s).eval engine row = .ok (some d) := by
  cases bound : engine.bound (.text s) with
  | none => cases (engine.bound_eq_none (.text s)).mp bound
  | some d => exact ⟨d, congrArg Except.ok bound⟩

section MatchesAny

variable {column : String} (first : String) (more : List String)

/-- A text that is there matches one of some patterns, or it does not. -/
theorem definite_matchesAny {d : δ} (there : row column = some d) :
    Definite engine row (matchesAny (textOf column) first more) := by
  have each (s : String) : Definite engine row (.compare (textOf column) .ilike (pattern s)) := by
    obtain ⟨e, known⟩ : ∃ e, (pattern s).eval engine row = .ok (some e) := eval_pattern s
    exact definite_compare (by rw [eval_textOf, there]; rfl) known .ilike
  apply Definite.anyOf (each first)
  intro q member
  obtain ⟨s, _, rfl⟩ := List.mem_map.mp member
  exact each s

/-- Of a text that is missing it is unknown. -/
theorem unknown_matchesAny (missing : row column = none) :
    Unknown engine row (matchesAny (textOf column) first more) := by
  have each (s : String) : Unknown engine row (.compare (textOf column) .ilike (pattern s)) := by
    obtain ⟨e, known⟩ : ∃ e, (pattern s).eval engine row = .ok (some e) := eval_pattern s
    exact unknown_compare (by rw [eval_textOf, missing]; rfl) known .ilike
  apply Unknown.anyOf (each first)
  intro q member
  obtain ⟨s, _, rfl⟩ := List.mem_map.mp member
  exact each s

end MatchesAny

/-! ### The evidence -/

/-- Only a status could tell deletion, and the row has none. -/
def Untold (target : Target) (row : String → Option δ) : Prop :=
  target.roles.column? .deletedFlag = none ∧ target.roles.column? .deletedAt = none ∧
    ∀ column, target.roles.column? .status = some column → row column = none

section Evidence

variable {target : Target} {evidence : Predicate} (derived : deletion? target = some evidence)
include derived

/-- Whatever a flag and a moment of deletion hold, they answer; a status answers if it is there. -/
theorem definite_of_told (told : ¬ Untold target row) : Definite engine row evidence := by
  have each : ∀ q ∈ ((target.roles.column? .deletedFlag).map (flagSet target)).toList
      ++ ((target.roles.column? .deletedAt).map deletionRecorded).toList,
      Definite engine row q := by
    intro q member
    rcases List.mem_append.mp member with flag | moment
    · obtain ⟨column, _, rfl⟩ := Option.map_eq_some_iff.mp (Option.mem_toList.mp flag)
      exact definite_flagSet target column
    · obtain ⟨column, _, rfl⟩ := Option.map_eq_some_iff.mp (Option.mem_toList.mp moment)
      exact definite_deletionRecorded column
  unfold deletion? at derived
  dsimp only at derived
  split at derived
  next first more listed =>
    cases derived
    rw [listed] at each
    exact .anyOf (each first List.mem_cons_self) fun q member => each q (.tail first member)
  next nothing =>
    obtain ⟨column, plays, rfl⟩ := Option.map_eq_some_iff.mp derived
    -- The status is asked only where the other two columns are missing.
    have missing : target.roles.column? .deletedFlag = none ∧
        target.roles.column? .deletedAt = none := by
      simpa [Option.toList_eq_nil_iff] using nothing
    cases stored : row column with
    | some d => exact definite_matchesAny _ _ stored
    | none =>
      refine absurd ⟨missing.1, missing.2, fun other plays' => ?_⟩ told
      cases plays.symm.trans plays'
      exact stored

theorem unknown_of_untold (untold : Untold target row) : Unknown engine row evidence := by
  obtain ⟨noFlag, noMoment, missing⟩ := untold
  simp only [deletion?, noFlag, noMoment, Option.map_none, Option.toList_none,
    List.append_nil] at derived
  obtain ⟨column, plays, rfl⟩ := Option.map_eq_some_iff.mp derived
  exact unknown_matchesAny _ _ (missing column plays)

end Evidence

/-- How the evidence of deletion shares out the rows. -/
structure Splits (target : Target) (engine : Engine δ) (row : String → Option δ)
    (evidence : Predicate) : Prop where
  /-- The evidence is the condition of the deleted state, and its negation comes first in the other
  two. -/
  states : ∀ days, lifecycleConditions .deleted days target = [evidence] ∧
    (lifecycleConditions .expiring days target).head? = some (.not evidence) ∧
    (lifecycleConditions .active days target).head? = some (.not evidence)
  /-- It is true or false, unless the row lacks the only thing that could tell. -/
  definite : (∃ b, evidence.eval engine row = .ok (some b)) ↔ ¬ Untold target row
  /-- Then exactly one of the two selects the row. -/
  shared : ¬ Untold target row →
    (evidence.Selects engine row ∨ (Predicate.not evidence).Selects engine row) ∧
      ¬ (evidence.Selects engine row ∧ (Predicate.not evidence).Selects engine row)
  /-- Otherwise neither does, and no state has the row. -/
  lost : Untold target row → evidence.eval engine row = .ok none ∧
    ¬ evidence.Selects engine row ∧ ¬ (Predicate.not evidence).Selects engine row

/-- The evidence of deletion splits the rows in two, but for those without the status that alone
could tell. -/
theorem deletion_splits {target : Target} {evidence : Predicate}
    (derived : deletion? target = some evidence) (engine : Engine δ) (row : String → Option δ) :
    Splits target engine row evidence := by
  constructor
  case states => simp [lifecycleConditions, derived]
  case definite =>
    constructor
    · intro definite untold
      exact Definite.not_unknown definite (unknown_of_untold derived untold)
    · exact definite_of_told derived
  case shared =>
    intro told
    have definite : Definite engine row evidence := definite_of_told derived told
    rw [definite.selects_not]
    exact ⟨Classical.em _, fun both => both.2 both.1⟩
  case lost =>
    intro untold
    have unknown : Unknown engine row evidence := unknown_of_untold derived untold
    exact ⟨unknown, unknown.not_selects⟩

/-! ### Two tables -/

/-- An engine whose values are all texts. -/
def plainEngine : Engine String where
  asText := id
  lowered := Text.lower
  isEmpty := (· == "")
  read? _ s := if s = "0" ∨ s = "1" then some s else none
  bound
    | .null => none
    | .text s => some s
    | _ => some ""
  bound_eq_none v := by cases v <;> simp
  zero := "0"
  now := ""
  yearsAgo := id
  daysAhead := id
  isTrue := (· == "true")
  compare
    | .gt, a, b => a > b
    | .ilike, a, p => p = "%" ++ Text.lower a ++ "%"
    | _, a, b => a = b

/-- A table of texts, by the names of its columns. -/
def textTable (names : List String) : Target :=
  .ofCatalog ⟨names.map fun name => ⟨name, "VARCHAR", .null, 1⟩⟩

/-- A row with the name of a domain and nothing else. -/
def bareRow : String → Option String := fun column => if column = "domain" then some "a.com" else none

/-- Where a moment of deletion is looked for, a row without one is told to be there. -/
theorem deletion_splits_of_moment :
    ∃ evidence, deletion? (textTable ["domain", "status", "deleted_at"]) = some evidence ∧
      Splits (textTable ["domain", "status", "deleted_at"]) plainEngine bareRow evidence ∧
        ¬ Untold (textTable ["domain", "status", "deleted_at"]) bareRow := by
  have tells : (deletion? (textTable ["domain", "status", "deleted_at"])).isSome = true := by
    decide +kernel
  have moment : (textTable ["domain", "status", "deleted_at"]).roles.column? .deletedAt =
      some "deleted_at" := by decide +kernel
  obtain ⟨evidence, derived⟩ := Option.isSome_iff_exists.mp tells
  exact ⟨evidence, derived, deletion_splits derived plainEngine bareRow,
    fun untold => by simp [Untold, moment] at untold⟩

/-- In a table whose status alone tells deletion, a row without a status is in no state: neither the
evidence nor its negation holds of it. -/
theorem lost_without_status :
    ∃ evidence, deletion? (textTable ["domain", "status"]) = some evidence ∧
      evidence.eval plainEngine bareRow = .ok none ∧
      (∀ state days, ∃ p ∈ lifecycleConditions state days (textTable ["domain", "status"]),
        ¬ p.Selects plainEngine bareRow) := by
  have tells : (deletion? (textTable ["domain", "status"])).isSome = true := by decide +kernel
  have noFlag : (textTable ["domain", "status"]).roles.column? .deletedFlag = none := by
    decide +kernel
  have noMoment : (textTable ["domain", "status"]).roles.column? .deletedAt = none := by
    decide +kernel
  have status : (textTable ["domain", "status"]).roles.column? .status = some "status" := by
    decide +kernel
  obtain ⟨evidence, derived⟩ := Option.isSome_iff_exists.mp tells
  have untold : Untold (textTable ["domain", "status"]) bareRow := by
    refine ⟨noFlag, noMoment, fun column plays => ?_⟩
    cases status.symm.trans plays
    rfl
  have unknown : Unknown plainEngine bareRow evidence := unknown_of_untold derived untold
  refine ⟨evidence, derived, unknown, fun state days => ?_⟩
  cases state with
  | deleted => exact ⟨evidence, by simp [lifecycleConditions, derived], unknown.not_selects.1⟩
  | expiring | active =>
    exact ⟨.not evidence, by simp [lifecycleConditions, derived], unknown.not_selects.2⟩

end DomainScout.Query
