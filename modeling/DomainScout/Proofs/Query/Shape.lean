import DomainScout.Query.Compile

/-!
# The shape of criteria

The text of a query depends on which filters are set and not on what they are set to. Two criteria
of the same shape differ in the values that travel beside the statement, and in nothing else.

Main statement: `compile_of_sameShape`.
-/
namespace DomainScout.Sql

/-- The expression with its values taken out. -/
def Term.outline : Term → Term
  | column name => column name
  | asText t => asText t.outline
  | lowered t => lowered t.outline
  | nonEmpty t => nonEmpty t.outline
  | tryCast t type => tryCast t.outline type
  | orZero t => orZero t.outline
  | bound _ => bound .null
  | cast t type => cast t.outline type
  | zero => zero
  | now => now
  | yearsAgo t => yearsAgo t.outline
  | daysAhead t => daysAhead t.outline

theorem Term.values_outline (t : Term) : t.outline.values.length = t.values.length := by
  induction t with
  | column | bound | zero | now => rfl
  | asText t ih | lowered t ih | nonEmpty t ih | tryCast t type ih | orZero t ih | cast t type ih
  | yearsAgo t ih | daysAhead t ih => exact ih

theorem Term.text_outline (t : Term) (before : Nat) : t.outline.text before = t.text before := by
  induction t with
  | column | bound | zero | now => rfl
  | asText t ih | lowered t ih | nonEmpty t ih | tryCast t type ih | orZero t ih | cast t type ih
  | yearsAgo t ih | daysAhead t ih =>
    unfold outline text
    rw [ih]

namespace Predicate

/-- The condition with its values taken out. -/
def outline : Predicate → Predicate
  | compare left comparison right => compare left.outline comparison right.outline
  | among t choices => among t.outline (choices.map fun _ => "")
  | ask t question => ask t.outline question
  | not p => not p.outline
  | and p q => and p.outline q.outline
  | or p q => or p.outline q.outline
  | group p => group p.outline

theorem values_outline (p : Predicate) : p.outline.values.length = p.values.length := by
  induction p with
  | compare left comparison right =>
    simp only [outline, values, List.length_append, Term.values_outline]
  | among t choices =>
    simp only [outline, values, List.length_append, List.length_map, Term.values_outline]
  | ask t question => exact t.values_outline
  | not p ih | group p ih => exact ih
  | and p q left right | or p q left right =>
    simp only [outline, values, List.length_append, left, right]

theorem text_outline (p : Predicate) (before : Nat) : p.outline.text before = p.text before := by
  induction p generalizing before with
  | compare left comparison right =>
    simp only [outline, text, Term.text_outline, Term.values_outline]
  | among t choices =>
    simp only [outline, text, Term.text_outline, Term.values_outline, List.length_map]
  | ask t question => simp only [outline, text, Term.text_outline]
  | not p ih | group p ih => simp only [outline, text, ih]
  | and p q left right | or p q left right =>
    simp only [outline, text, left, right, values_outline]

theorem outline_anyOf (p : Predicate) (rest : List Predicate) :
    (anyOf p rest).outline = anyOf p.outline (rest.map outline) := by
  induction rest generalizing p with
  | nil => rfl
  | cons q rest ih => simp only [anyOf, outline, List.map_cons, ih]

theorem texts_outline (ps : List Predicate) (before : Nat) :
    texts before (ps.map outline) = texts before ps := by
  induction ps generalizing before with
  | nil => rfl
  | cons p rest ih => simp only [List.map_cons, texts, text_outline, values_outline, ih]

theorem allValues_outline (ps : List Predicate) :
    (allValues (ps.map outline)).length = (allValues ps).length := by
  induction ps with
  | nil => rfl
  | cons p rest ih =>
    simp only [allValues, List.map_cons, List.flatMap_cons, List.length_append,
      values_outline] at ih ⊢
    rw [ih]

end Predicate

end DomainScout.Sql

namespace DomainScout.Query

open Sql Criteria

/-- The text spells a finite number. -/
def spellsFinite (s : String) : Bool :=
  match Number.readReal? s.toList with
  | some (.finite _ _ _ _) => true
  | _ => false

/-- Two criteria set the same filters: the same texts are there, as many top-level domains are
left to look in, the same ages are finite numbers, and the choices are the same. -/
structure SameShape (c₁ c₂ : Criteria) : Prop where
  texts : ∀ field, (given? c₁ field).isSome = (given? c₂ field).isSome
  terms : (tldTerms c₁).length = (tldTerms c₂).length
  youngest : (c₁.text .ageYearsFrom).any spellsFinite = (c₂.text .ageYearsFrom).any spellsFinite
  oldest : (c₁.text .ageYearsTo).any spellsFinite = (c₂.text .ageYearsTo).any spellsFinite
  lifecycle : c₁.lifecycle = c₂.lifecycle
  spamhaus : c₁.safeSpamhausOnly = c₂.safeSpamhausOnly
  views : c₁.safeViewsTotalOnly = c₂.safeViewsTotalOnly

theorem isSome_years? (text : Option String) : (years? text).isSome = text.any spellsFinite := by
  cases text with
  | none => rfl
  | some s =>
    simp only [years?, wholeOfText?, Option.bind_some, Option.isSome_map, Option.any_some,
      spellsFinite]
    cases Number.readReal? s.toList with
    | none => rfl
    | some x => cases x <;> rfl

section Outlines

/-- A condition that has one outline for all values has one outline wherever it is there. -/
theorem outline_toList {α : Type} {given₁ given₂ : Option α} {condition : α → Predicate}
    (set : given₁.isSome = given₂.isSome)
    (same : ∀ a b, (condition a).outline = (condition b).outline) :
    (given₁.map condition).toList.map Predicate.outline =
      (given₂.map condition).toList.map Predicate.outline := by
  cases given₁ with
  | none =>
    cases given₂ with
    | none => rfl
    | some b => cases set
  | some a =>
    cases given₂ with
    | none => cases set
    | some b => simp only [Option.map_some, Option.toList_some, List.map_cons, List.map_nil, same a b]

theorem outline_onColumn {column text₁ text₂ : Option String}
    {condition : String → String → Predicate} (set : text₁.isSome = text₂.isSome)
    (same : ∀ column s t, (condition column s).outline = (condition column t).outline) :
    (onColumn column text₁ condition).map Predicate.outline =
      (onColumn column text₂ condition).map Predicate.outline := by
  have written (column : Option String) (text : Option String) : onColumn column text condition =
      (column.map fun name => (text.map (condition name)).toList).getD [] := by
    cases column <;> cases text <;> rfl
  rw [written, written]
  cases column with
  | none => rfl
  | some name => exact outline_toList set (same name)

theorem outline_tldConditions (target : Target) {terms₁ terms₂ : List String}
    (count : terms₁.length = terms₂.length) :
    (tldConditions target terms₁).map Predicate.outline =
      (tldConditions target terms₂).map Predicate.outline := by
  cases terms₁ with
  | nil =>
    cases terms₂ with
    | nil => rfl
    | cons => cases count
  | cons s ss =>
    cases terms₂ with
    | nil => cases count
    | cons t ts =>
      have blank : (s :: ss).map (fun _ => "") = (t :: ts).map (fun _ => "") := by
        rw [List.map_const', List.map_const', count]
      have under (column : String) : (ss.map (domainUnder column)).map Predicate.outline =
          (ts.map (domainUnder column)).map Predicate.outline := by
        rw [List.map_map, List.map_map]
        have constant : Predicate.outline ∘ domainUnder column =
            fun _ => (domainUnder column "").outline := rfl
        rw [constant, List.map_const', List.map_const', Nat.succ.inj count]
      simp only [tldConditions]
      split
      · simp only [List.map_cons, List.map_nil, Predicate.outline, blank]
      · simp only [List.map_cons, List.map_nil, Predicate.outline, Predicate.outline_anyOf, under]
        rfl
      · rfl

theorem outline_lifecycleConditions (state : Lifecycle) (days₁ days₂ : Int) (target : Target) :
    (lifecycleConditions state days₁ target).map Predicate.outline =
      (lifecycleConditions state days₂ target).map Predicate.outline := by
  cases state with
  | deleted => rfl
  | active => rfl
  | expiring =>
    simp only [lifecycleConditions, List.map_append, expiring?]
    cases endColumn? target <;> rfl

/-- Putting two ages in order keeps missing ages where they are. -/
theorem isSome_orderedAges (low high : Option Int) :
    (orderedAges low high).1.isSome = low.isSome ∧
      (orderedAges low high).2.isSome = high.isSome := by
  cases low with
  | none => exact ⟨rfl, rfl⟩
  | some a =>
    cases high with
    | none => exact ⟨rfl, rfl⟩
    | some b =>
      simp only [orderedAges]
      split <;> exact ⟨rfl, rfl⟩

theorem outline_ageConditions (column : String) {c₁ c₂ : Criteria} (same : SameShape c₁ c₂) :
    (ageConditions c₁ column).map Predicate.outline =
      (ageConditions c₂ column).map Predicate.outline := by
  -- The two ages may change places, which depends on their values; whether each is there does not.
  have ordered (c : Criteria) := isSome_orderedAges (years? (c.text .ageYearsFrom))
    (years? (c.text .ageYearsTo))
  have least : (orderedAges (years? (c₁.text .ageYearsFrom)) (years? (c₁.text .ageYearsTo))).1.isSome
      = (orderedAges (years? (c₂.text .ageYearsFrom)) (years? (c₂.text .ageYearsTo))).1.isSome := by
    rw [(ordered c₁).1, (ordered c₂).1, isSome_years?, isSome_years?, same.youngest]
  have most : (orderedAges (years? (c₁.text .ageYearsFrom)) (years? (c₁.text .ageYearsTo))).2.isSome
      = (orderedAges (years? (c₂.text .ageYearsFrom)) (years? (c₂.text .ageYearsTo))).2.isSome := by
    rw [(ordered c₁).2, (ordered c₂).2, isSome_years?, isSome_years?, same.oldest]
  simp only [ageConditions, List.map_append]
  rw [outline_toList least fun _ _ => rfl, outline_toList most fun _ _ => rfl]

/-- Criteria of the same shape have, filter by filter, conditions with the same outlines. -/
theorem outline_conditions (target : Target) (filter : Filter) {c₁ c₂ : Criteria}
    (same : SameShape c₁ c₂) :
    (filter.conditions target c₁).map Predicate.outline =
      (filter.conditions target c₂).map Predicate.outline := by
  cases filter with
  | tld => exact outline_tldConditions target same.terms
  | lifecycle =>
    simp only [Filter.conditions, same.lifecycle]
    cases c₂.lifecycle with
    | none => rfl
    | some state => exact outline_lifecycleConditions state _ _ target
  | age =>
    simp only [Filter.conditions]
    cases target.roles.column? .created with
    | none => rfl
    | some column => exact outline_ageConditions column same
  | safeSpamhaus => simp only [Filter.conditions, same.spamhaus]
  | safeViews => simp only [Filter.conditions, same.views]
  | startsWith | endsWith | createdFrom | createdTo | country | registrar | technologies
  | responseStatus | hostsMin | hostsMax | expiresFrom | expiresTo | waybackMin =>
    exact outline_onColumn (same.texts _) fun _ _ _ => rfl

end Outlines

/-- The text of a query is a function of the shape of the criteria: criteria of the same shape
compile to the same text, character for character, and to equally many parameters. -/
theorem compile_of_sameShape (target : Target) (c₁ c₂ : Criteria) (same : SameShape c₁ c₂) :
    (compile c₁ target).fragments = (compile c₂ target).fragments ∧
    (compile c₁ target).whereSql = (compile c₂ target).whereSql ∧
    (compile c₁ target).selection = (compile c₂ target).selection ∧
    (compile c₁ target).selectSql = (compile c₂ target).selectSql ∧
    (compile c₁ target).parameters.length = (compile c₂ target).parameters.length := by
  -- Texts and counts are those of the outlines, and the outlines are equal filter by filter.
  have outlines : (compile c₁ target).conditions.map Predicate.outline =
      (compile c₂ target).conditions.map Predicate.outline := by
    simp only [compile, List.map_flatMap, outline_conditions target _ same]
  have fragments : (compile c₁ target).fragments = (compile c₂ target).fragments := by
    rw [Compiled.fragments, Compiled.fragments, ← Predicate.texts_outline, outlines,
      Predicate.texts_outline]
  refine ⟨fragments, ?_, rfl, rfl, ?_⟩
  · rw [Compiled.whereSql, Compiled.whereSql, fragments]
  · rw [Compiled.parameters, Compiled.parameters, ← Predicate.allValues_outline, outlines,
      Predicate.allValues_outline]

/-- An attempt to leave the quotes changes no more of the text than any other value does. -/
theorem compile_of_sameShape_hostile :
    let text (name : String) : Column := ⟨name, "VARCHAR", .null, 1⟩
    let target := Target.ofCatalog ⟨[text "my\"domain", text "created_at", text "status"]⟩
    let hostile : Criteria :=
      { Criteria.unfiltered with
        text := fun field =>
          match field with
          | .domainStartsWith => some "x'; DROP TABLE t; --"
          | .ageYearsFrom => some "10"
          | .ageYearsTo => some "2.5"
          | _ => none
        tlds := ["$1", "..", "') OR 1 = 1"]
        lifecycle := some .expiring }
    let plain : Criteria :=
      { Criteria.unfiltered with
        text := fun field =>
          match field with
          | .domainStartsWith => some "shop"
          | .ageYearsFrom => some "1"
          | .ageYearsTo => some "3"
          | _ => none
        tlds := ["com", "net"]
        lifecycle := some .expiring }
    SameShape hostile plain ∧
    (compile hostile target).fragments = (compile plain target).fragments ∧
    (compile hostile target).parameters.length = (compile plain target).parameters.length := by
  intro text target hostile plain
  have same : SameShape hostile plain := by
    constructor
    · intro field
      cases field <;> rfl
    all_goals decide +kernel
  have equal := compile_of_sameShape target hostile plain same
  exact ⟨same, equal.1, equal.2.2.2.2⟩

end DomainScout.Query
