import DomainScout.Proofs.Criteria.Accepted
import DomainScout.Proofs.Query.Deletion
import DomainScout.Query.Compile

/-!
# Top-level domains in one spelling

The top-level domains of a search are brought into one spelling before they are bound: the blanks
around a term are dropped, then the dots before it, and the letters are lowered. Lowering brings
back nothing that was dropped. But the dots go after the blanks, so a blank that stood behind them
comes to the front and stays there. In a term that was split off a text there are no blanks at all,
so it takes an item of a list to show this.

Main statement: `canonical_iff_unspaced`.
-/
namespace DomainScout.Query

open Text Criteria Sql

/-- A top-level domain in its one spelling. -/
structure CanonicalTerm (term : String) : Prop where
  filled : term ≠ ""
  first : ∀ c, term.toList.head? = some c → isBlank c = false
  last : ∀ c, term.toList.getLast? = some c → isBlank c = false
  undotted : term.toList.head? ≠ some '.'
  low : lower term = term
  /-- Normalizing it changes nothing. -/
  fixed : normalizeTld term = term

/-- Without the blanks around it, a text has a blank behind the dots that it starts with. -/
def Spaced (s : String) : Prop :=
  ∃ dots c rest, (trim s).toList = dots ++ c :: rest ∧ (∀ d ∈ dots, d = '.') ∧ isBlank c = true

/-! ### What normalizing leaves -/

/-- A term without the blanks around it and the dots before it. -/
def bare (term : String) : List Char := (trimBoth isBlank term.toList).dropWhile (· == '.')

variable {s term : String} {c : Char}

theorem toList_normalizeTld (term : String) : (normalizeTld term).toList = lowerChars (bare term) :=
  String.toList_ofList

theorem head?_bare (term : String) : (bare term).head? ≠ some '.' := by
  intro dotted
  have solid := List.head?_dropWhile_not (· == '.') (trimBoth isBlank term.toList)
  rw [bare] at dotted
  simp [dotted] at solid

theorem getLast?_bare (last : (bare term).getLast? = some c) : isBlank c = false := by
  -- What is left is the end of the trimmed term, so both end in the same character.
  obtain ⟨dots, whole⟩ : bare term <:+ trimBoth isBlank term.toList := List.dropWhile_suffix _
  have filled : bare term ≠ [] := by
    intro nothing
    rw [nothing] at last
    cases last
  have ends : (trimBoth isBlank term.toList).getLast? = some c := by
    rw [← whole, List.getLast?_append_of_ne_nil _ filled]
    exact last
  exact getLast?_trimBoth ends

theorem spaced_iff : Spaced s ↔ ∃ c, (bare s).head? = some c ∧ isBlank c = true := by
  rw [Spaced, bare, trim, String.toList_ofList]
  constructor
  · rintro ⟨dots, c, rest, whole, dotted, blank⟩
    have undotted : (c == '.') = false := by
      rw [beq_eq_false_iff_ne]
      rintro rfl
      exact absurd blank (by decide)
    rw [whole, dropWhile_padded (by simpa using dotted) (by simpa using undotted)]
    exact ⟨c, rfl, blank⟩
  · rintro ⟨c, first, blank⟩
    obtain ⟨rest, left⟩ := List.head?_eq_some_iff.mp first
    refine ⟨(trimBoth isBlank s.toList).takeWhile (· == '.'), c, rest, ?_, fun d member => ?_, blank⟩
    · rw [← left, List.takeWhile_append_dropWhile]
    · simpa using List.mem_takeWhile_imp member

theorem head?_normalizeTld (unspaced : ¬ Spaced term)
    (first : (normalizeTld term).toList.head? = some c) : isBlank c = false := by
  rw [toList_normalizeTld] at first
  by_contra blank
  rw [Bool.not_eq_false] at blank
  have bared := head?_of_head?_lowerAfter (isOwn_of_isBlank blank) first
  exact unspaced (spaced_iff.mpr ⟨c, bared, blank⟩)

theorem getLast?_normalizeTld (last : (normalizeTld term).toList.getLast? = some c) :
    isBlank c = false := by
  rw [toList_normalizeTld] at last
  by_contra blank
  rw [Bool.not_eq_false] at blank
  have bared := getLast?_of_getLast?_lowerAfter (isOwn_of_isBlank blank) last
  rw [getLast?_bare bared] at blank
  cases blank

theorem undotted_normalizeTld (term : String) : (normalizeTld term).toList.head? ≠ some '.' := by
  rw [toList_normalizeTld]
  intro dotted
  exact head?_bare term (head?_of_head?_lowerAfter (isOwn_of_isMark (by decide)) dotted)

theorem lower_normalizeTld (term : String) : lower (normalizeTld term) = normalizeTld term := by
  rw [lower, toList_normalizeTld, lowerChars, lowerChars, lowerAfter_lowerAfter]
  rfl

/-- Of a term without blanks around it and without a dot before it only the letters change. -/
theorem normalizeTld_eq_lower (first : ∀ c, term.toList.head? = some c → isBlank c = false)
    (last : ∀ c, term.toList.getLast? = some c → isBlank c = false)
    (undotted : term.toList.head? ≠ some '.') : normalizeTld term = lower term := by
  have unpadded : trimBoth isBlank term.toList = term.toList := by
    apply trimBoth_eq_self <;> rw [Option.any_eq_false] <;> assumption
  have dotless : term.toList.dropWhile (· == '.') = term.toList := by
    apply @dropWhile_padded _ [] _ nofun
    rw [Option.any_eq_false]
    rintro c starts
    rw [beq_eq_false_iff_ne]
    rintro rfl
    exact undotted starts
  rw [normalizeTld, unpadded, dotless]
  rfl

/-- A blank that stood behind dots comes to the front. -/
theorem head?_of_spaced (spaced : Spaced term) :
    ∃ c, (normalizeTld term).toList.head? = some c ∧ isBlank c = true := by
  obtain ⟨c, bared, blank⟩ := spaced_iff.mp spaced
  refine ⟨c, ?_, blank⟩
  rw [toList_normalizeTld]
  exact head?_lowerAfter (isLow_of_isBlank blank) bared

theorem canonicalTerm_normalizeTld (filled : normalizeTld term ≠ "") (unspaced : ¬ Spaced term) :
    CanonicalTerm (normalizeTld term) := by
  have first := fun c => @head?_normalizeTld term c unspaced
  have last := fun c => @getLast?_normalizeTld term c
  have undotted := undotted_normalizeTld term
  have low := lower_normalizeTld term
  exact ⟨filled, first, last, undotted, low, (normalizeTld_eq_lower first last undotted).trans low⟩

/-! ### Terms that are read -/

theorem not_spaced_of_solid (solid : ∀ c ∈ term.toList, isBlank c = false) : ¬ Spaced term := by
  rintro ⟨dots, c, rest, whole, -, blank⟩
  rw [trim, String.toList_ofList] at whole
  have inside : c ∈ trimBoth isBlank term.toList := by simp [whole]
  rw [solid c (mem_of_mem_trimBoth inside)] at blank
  cases blank

/-- A text is taken from an item of the list of top-level domains in raw criteria. -/
def Itemized (raw : Value) (s : String) : Prop :=
  ∃ fields items item, raw = .object fields ∧ Field.raw fields .tld = .list items ∧ item ∈ items ∧
    Criteria.textOf item = .ok (some s)

variable {raw : Value} {criteria : Criteria}

/-- The items of a list are terms, and any other term holds no blanks. -/
theorem mem_tlds (reads : ofValue raw = .ok criteria) :
    (∀ s, Itemized raw s → s ∈ criteria.tlds) ∧
      ∀ t ∈ criteria.tlds, Itemized raw t ∨ ∀ c ∈ t.toList, isBlank c = false := by
  cases raw with
  | object fields =>
    rcases termsOf_cases (ofValue_object_eq_ok_iff.mp reads).tlds with ⟨items, list, terms⟩ | ⟨single, solid⟩
    · constructor
      · rintro s ⟨_, _, item, same, list', member, text⟩
        cases same
        cases list.symm.trans list'
        exact (terms s).mpr ⟨item, member, text⟩
      · intro t listed
        obtain ⟨item, member, text⟩ := (terms t).mp listed
        exact .inl ⟨fields, items, item, rfl, list, member, text⟩
    · constructor
      · rintro s ⟨_, items, _, same, list, -⟩
        cases same
        exact absurd list (single items)
      · exact fun t listed => .inr (solid t listed).2
  | null =>
    cases reads
    refine ⟨?_, nofun⟩
    rintro s ⟨_, _, _, same, -⟩
    cases same
  | bool | int | real | text | ragged | list => cases reads

/-! ### Terms that are bound -/

/-- What stands before a term where it is bound. -/
def leadIn (target : Target) : String := if (target.roles.column? .tld).isSome then "" else "%."

/-- A term is bound. -/
def Binds (target : Target) (criteria : Criteria) (term : String) : Prop :=
  Value.text (leadIn target ++ term) ∈ Predicate.allValues (Filter.tld.conditions target criteria)

/-- A column tells the top-level domain. -/
def Tells (target : Target) : Prop :=
  (target.roles.column? .tld).isSome ∨ (target.roles.column? .domain).isSome

variable {target : Target}

theorem values_anyOf (p : Predicate) (rest : List Predicate) :
    (Predicate.anyOf p rest).values = Predicate.allValues (p :: rest) := by
  induction rest generalizing p with
  | nil => simp [Predicate.anyOf, Predicate.allValues]
  | cons q rest ih =>
    rw [Predicate.anyOf, Predicate.values, ih]
    rfl

theorem allValues_tldConditions (tells : Tells target) (terms : List String) :
    Predicate.allValues (tldConditions target terms) =
      terms.map fun t => Value.text (leadIn target ++ t) := by
  cases terms with
  | nil => rfl
  | cons term more =>
    unfold tldConditions leadIn
    cases own : target.roles.column? .tld with
    | some column => simp [Predicate.allValues, Predicate.values, Term.values]
    | none =>
      cases whole : target.roles.column? .domain with
      | some column =>
        simp only [Predicate.allValues, List.flatMap_singleton, Predicate.values, values_anyOf]
        rw [← List.map_cons, List.flatMap_map, List.map_eq_flatMap]
        rfl
      | none => simp [Tells, own, whole] at tells

theorem binds_iff (tells : Tells target) : Binds target criteria term ↔ term ∈ tldTerms criteria := by
  rw [Binds, Filter.conditions, allValues_tldConditions tells, List.mem_map]
  constructor
  · rintro ⟨t, listed, same⟩
    simp only [Value.text.injEq, String.append_right_inj] at same
    exact same ▸ listed
  · exact fun listed => ⟨term, listed, rfl⟩

theorem mem_tldTerms : term ∈ tldTerms criteria ↔
    term ≠ "" ∧ ∃ t ∈ criteria.tlds, normalizeTld t = term := by
  simp [tldTerms, and_comm]

/-- The terms that are bound for raw criteria. -/
structure TermsBound (raw : Value) (criteria : Criteria) (target : Target) : Prop where
  compiled : Filter.tld.conditions target criteria ⊆ (compile criteria target).conditions
  /-- The filter binds terms behind the lead-in and nothing else. -/
  terms : ∀ v ∈ Predicate.allValues (Filter.tld.conditions target criteria),
    ∃ term, v = .text (leadIn target ++ term)
  /-- All that a term can lack is a first character that is not blank. -/
  nearly : ∀ term, Binds target criteria term → term ≠ "" ∧
    (∀ c, term.toList.getLast? = some c → isBlank c = false) ∧ term.toList.head? ≠ some '.' ∧
    lower term = term
  /-- All terms are canonical exactly if no item of a list has a blank behind its first dots. -/
  canonical : (∀ term, Binds target criteria term → CanonicalTerm term) ↔
    ∀ s, Itemized raw s → ¬ Spaced s

theorem canonical_iff_unspaced (reads : ofValue raw = .ok criteria) (tells : Tells target) :
    TermsBound raw criteria target where
  compiled _ member := List.mem_flatMap.mpr ⟨.tld, by decide, member⟩
  terms v member := by
    rw [Filter.conditions, allValues_tldConditions tells] at member
    obtain ⟨t, -, rfl⟩ := List.mem_map.mp member
    exact ⟨t, rfl⟩
  nearly term bound := by
    obtain ⟨filled, t, -, rfl⟩ := mem_tldTerms.mp ((binds_iff tells).mp bound)
    exact ⟨filled, fun c => getLast?_normalizeTld, undotted_normalizeTld t, lower_normalizeTld t⟩
  canonical := by
    obtain ⟨items, others⟩ := mem_tlds reads
    constructor
    · intro all s item spaced
      obtain ⟨c, first, blank⟩ := head?_of_spaced spaced
      have filled : normalizeTld s ≠ "" := by
        intro nothing
        rw [nothing] at first
        cases first
      have listed := mem_tldTerms.mpr ⟨filled, s, items s item, rfl⟩
      have canonical := all _ ((binds_iff tells).mpr listed)
      rw [canonical.first c first] at blank
      cases blank
    · intro unspaced term bound
      obtain ⟨filled, t, listed, rfl⟩ := mem_tldTerms.mp ((binds_iff tells).mp bound)
      apply canonicalTerm_normalizeTld filled
      rcases others t listed with item | solid
      · exact unspaced t item
      · exact not_spaced_of_solid solid

theorem canonical_iff_unspaced_of_text : ∃ criteria,
    ofValue (.object [("tld", .text "COM, .net")]) = .ok criteria ∧
      Tells (textTable ["domain", "tld"]) ∧
      TermsBound (.object [("tld", .text "COM, .net")]) criteria (textTable ["domain", "tld"]) ∧
      tldTerms criteria = ["com", "net"] := by
  have clean : problems [("tld", .text "COM, .net")] = [] := by decide +kernel
  have reads : ofValue (.object [("tld", .text "COM, .net")]) =
      .ok (ofFields [("tld", .text "COM, .net")]) := by
    rw [ofValue, clean]
  have tells : Tells (textTable ["domain", "tld"]) := .inl (by decide +kernel)
  exact ⟨_, reads, tells, canonical_iff_unspaced reads tells, by decide +kernel⟩

/-- An item of a list gets through with a blank before it, and normalizing again takes it away. -/
theorem not_canonical_of_blank : ∃ criteria,
    ofValue (.object [("tld", .list [.text ". com"])]) = .ok criteria ∧
      Binds (textTable ["domain", "tld"]) criteria " com" ∧
      normalizeTld " com" = "com" ∧ ¬ CanonicalTerm " com" := by
  have clean : problems [("tld", .list [.text ". com"])] = [] := by decide +kernel
  have tells : Tells (textTable ["domain", "tld"]) := .inl (by decide +kernel)
  refine ⟨ofFields [("tld", .list [.text ". com"])], ?_, ?_, by decide +kernel, ?_⟩
  · rw [ofValue, clean]
  · rw [binds_iff tells]
    decide +kernel
  · intro canonical
    exact absurd (canonical.first ' ' (by decide)) (by decide)

end DomainScout.Query
