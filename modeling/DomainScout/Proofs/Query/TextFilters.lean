import DomainScout.Proofs.Sql.Like
import DomainScout.Proofs.Query.Deletion
import DomainScout.Query.Compile

/-!
# What text filters find

A text filter looks for its text at the start of a column, at its end or anywhere in it. It puts the
text into a pattern as it is. A text without `%` and `_` is found literally, but for letter case. One
with them is itself read as a pattern: it is still found where it stands literally, and in other
places as well.

Main statements: `means_pattern`, `textFilters_find`.
-/
namespace DomainScout.Query

open Sql Criteria

/-! ### Anchors -/

/-- Where in a column a text is looked for. -/
inductive Anchor where
  | start
  | finish
  | anywhere

namespace Anchor

/-- The pattern that looks for a text. -/
def pattern : Anchor → String → String
  | start => startPattern
  | finish => endPattern
  | anywhere => insidePattern

/-- A text stands there in another one. -/
def Finds : Anchor → List Char → List Char → Prop
  | start, part, s => part <+: s
  | finish, part, s => part <:+ s
  | anywhere, part, s => part <:+: s

instance (anchor : Anchor) (part s : List Char) : Decidable (anchor.Finds part s) :=
  match anchor with
  | start => inferInstanceAs (Decidable (part <+: s))
  | finish => inferInstanceAs (Decidable (part <:+ s))
  | anywhere => inferInstanceAs (Decidable (part <:+: s))

variable {anchor : Anchor} {part s : List Char}

theorem Finds.sublist (found : anchor.Finds part s) : List.Sublist part s := by
  cases anchor with
  | start => exact List.IsPrefix.sublist found
  | finish => exact List.IsSuffix.sublist found
  | anywhere => exact List.IsInfix.sublist found

theorem finds_self (anchor : Anchor) (s : List Char) : anchor.Finds s s := by
  cases anchor with
  | start => exact List.prefix_rfl
  | finish => exact List.suffix_rfl
  | anywhere => exact List.infix_rfl

/-- The pattern finds what the text, itself read as a pattern, finds at the anchor. -/
theorem likes_pattern (folding : Folding) (anchor : Anchor) (v s : String) :
    folding.likes (anchor.pattern v) s = true ↔
      ∃ part, anchor.Finds part (folding.text s) ∧ like (folding.text v) part = true := by
  have percent : folding.fold '%' = '%' := (folding.percent '%').mpr rfl
  unfold Folding.likes
  -- What is put around the text is no letter, so it is there after folding as well.
  cases anchor with
  | start =>
    have shape : folding.text (Anchor.start.pattern v) = folding.text v ++ ['%'] := by
      simp [Folding.text, pattern, startPattern, percent]
    rw [shape, like_start]
    rfl
  | finish =>
    have shape : folding.text (Anchor.finish.pattern v) = '%' :: folding.text v := by
      simp [Folding.text, pattern, endPattern, percent]
    rw [shape, like_percent]
    rfl
  | anywhere =>
    have shape : folding.text (Anchor.anywhere.pattern v) = '%' :: (folding.text v ++ ['%']) := by
      simp [Folding.text, pattern, insidePattern, percent]
    rw [shape, like_inside]
    rfl

end Anchor

/-- What a pattern that looks for a text at an anchor means. -/
structure Means (folding : Folding) (anchor : Anchor) (v p : String) : Prop where
  /-- It finds the parts that match the text, read as a pattern. -/
  parts : ∀ s, folding.likes p s = true ↔
    ∃ part, anchor.Finds part (folding.text s) ∧ like (folding.text v) part = true
  /-- It finds the text where it stands literally. -/
  covers : ∀ s, anchor.Finds (folding.text v) (folding.text s) → folding.likes p s = true
  /-- It finds nothing else if there is neither `%` nor `_` in the text, and only then. -/
  literal : (∀ s, folding.likes p s = true ↔ anchor.Finds (folding.text v) (folding.text s)) ↔
    Verbatim v.toList

theorem means_pattern (folding : Folding) (anchor : Anchor) (v : String) :
    Means folding anchor v (anchor.pattern v) where
  parts := Anchor.likes_pattern folding anchor v
  covers s found := (Anchor.likes_pattern folding anchor v s).mpr ⟨_, found, like_self⟩
  literal := by
    constructor
    · intro literally
      -- The filled text matches as a whole, and only a plain text is a part of its own filling.
      have filled : folding.likes (anchor.pattern v) (.ofList (Folding.fill v.toList)) = true := by
        refine (Anchor.likes_pattern folding anchor v _).mpr ⟨_, anchor.finds_self _, ?_⟩
        simpa [Folding.text] using folding.like_fill v.toList
      have found := (literally _).mp filled
      apply folding.verbatim_of_sublist_fill
      simpa [Folding.text] using found.sublist
    · intro verbatim s
      have verbatimFolded : Verbatim (folding.text v) := folding.verbatim_iff.mpr verbatim
      simp only [Anchor.likes_pattern, like_iff_of_verbatim verbatimFolded, exists_eq_right]

/-! ### Text filters -/

/-- The filters that look for a text in a column. -/
inductive TextFilter where
  | domainStart
  | domainEnd
  | registrar
  | technologies
  | responseStatus

namespace TextFilter

def filter : TextFilter → Filter
  | domainStart => .startsWith
  | domainEnd => .endsWith
  | registrar => .registrar
  | technologies => .technologies
  | responseStatus => .responseStatus

/-- The field that gives the text. -/
def field : TextFilter → TextField
  | domainStart => .domainStartsWith
  | domainEnd => .domainEndsWith
  | registrar => .registrarContains
  | technologies => .technologiesContains
  | responseStatus => .responseStatusContains

def anchor : TextFilter → Anchor
  | domainStart => .start
  | domainEnd => .finish
  | registrar | technologies | responseStatus => .anywhere

/-- The column that is looked in. -/
def column? (target : Target) : TextFilter → Option String
  | domainStart | domainEnd => target.roles.column? .domain
  | registrar => target.fixed? "registrar"
  | technologies => target.fixed? "technologies"
  | responseStatus => target.fixed? "response_status"

/-- A text filter is the condition that the column matches the pattern of its text. -/
theorem conditions_filter (kind : TextFilter) (target : Target) (criteria : Criteria) :
    kind.filter.conditions target criteria =
      onColumn (kind.column? target) (given? criteria kind.field) (columnLike kind.anchor.pattern) := by
  cases kind <;> rfl

end TextFilter

/-- What the text filters of criteria find. -/
structure TextFiltersFind (folding : Folding) (criteria : Criteria) (target : Target) : Prop where
  compiled : ∀ filter : Filter,
    filter.conditions target criteria ⊆ (compile criteria target).conditions
  /-- The pattern of each text filter looks for its text, whatever the letter case. -/
  texts : ∀ (kind : TextFilter) (column v : String), kind.column? target = some column →
    given? criteria kind.field = some v → ∃ p,
      kind.filter.conditions target criteria = [.compare (.column column) .ilike (pattern p)] ∧
      Means folding kind.anchor v p
  /-- Without a column for it, a top-level domain is looked for at the end of the domain in lower
  case, behind a dot. -/
  domains : ∀ (column term : String) (more : List String), target.roles.column? .tld = none →
    target.roles.column? .domain = some column → tldTerms criteria = term :: more →
      ∃ p : String → String, Filter.tld.conditions target criteria =
        [.group (.anyOf (.compare (.lowered (.column column)) .like (pattern (p term)))
          (more.map fun t => .compare (.lowered (.column column)) .like (pattern (p t))))] ∧
        ∀ t, Means .exact .finish ("." ++ t) (p t) ∧ (Verbatim ("." ++ t).toList ↔ Verbatim t.toList)

theorem textFilters_find (folding : Folding) (criteria : Criteria) (target : Target) :
    TextFiltersFind folding criteria target where
  compiled filter _ member := by
    have listed : filter ∈ Filter.all := by cases filter <;> decide
    exact List.mem_flatMap.mpr ⟨filter, listed, member⟩
  texts kind column v found given := by
    refine ⟨kind.anchor.pattern v, ?_, means_pattern folding kind.anchor v⟩
    rw [kind.conditions_filter, found, given]
    rfl
  domains column term more absent found listed := by
    refine ⟨fun t => "%." ++ t, ?_, ?_⟩
    · simp only [Filter.conditions, listed, tldConditions, absent, found]
      rfl
    · intro t
      have shape : "%." ++ t = Anchor.finish.pattern ("." ++ t) := by
        simp [Anchor.pattern, endPattern, ← String.append_assoc]
      simp only [shape]
      exact ⟨means_pattern .exact .finish _, by simp [Verbatim]⟩

/-- A registrar is looked for whose name has a `_`. -/
def underscored : Criteria :=
  { Criteria.unfiltered with
    text := fun field => if field = .registrarContains then some "a_b" else none }

/-- The search finds a registrar with something else in its place. -/
theorem finds_more_than_underscored : ∃ p,
    (compile underscored (textTable ["domain", "registrar"])).conditions =
      [.compare (.column "registrar") .ilike (pattern p)] ∧
    Folding.ascii.likes p "axb" = true ∧
    ¬ Anchor.anywhere.Finds (Folding.ascii.text "a_b") (Folding.ascii.text "axb") := by
  refine ⟨"%a_b%", rfl, ?_, ?_⟩
  · decide
  · decide

end DomainScout.Query
