import DomainScout.Proofs.Criteria.Reading
import DomainScout.Proofs.Readings
import DomainScout.Proofs.Text.Trim

/-!
# Criteria that are accepted

An object is accepted if every filter takes the value that is there for it, so what becomes of it
depends on these values alone. The texts that are read are trimmed and not blank, those of top-level
domains among them: they are the texts of the items of a list, or have been split off one text at its
blanks.

Main statements: `ofValue_object_eq_ok_iff`, `settled_of_ofValue`.
-/
namespace DomainScout.Criteria

open Text

/-! ### Objects -/

/-- What the values in an object are read as. -/
structure Gives (fields : Fields) (criteria : Criteria) : Prop where
  text : ∀ field, textOf (Field.raw fields (.text field)) = .ok (criteria.text field)
  tlds : termsOf (Field.raw fields .tld) = .ok criteria.tlds
  lifecycle : readLifecycle (Field.raw fields .lifecycle) = .ok criteria.lifecycle
  safeSpamhausOnly : readFlag (Field.raw fields .safeSpamhausOnly) = criteria.safeSpamhausOnly
  safeViewsTotalOnly : readFlag (Field.raw fields .safeViewsTotalOnly) = criteria.safeViewsTotalOnly

variable {fields : Fields} {criteria : Criteria} {field : Field} {v : Value}

theorem fault?_text {text : TextField} :
    (Field.text text).fault? v = none ↔ ∃ found, textOf v = .ok found := by
  cases reads : textOf v <;> simp [Field.fault?, readText, reads, Except.mapError]

theorem fault?_tld : Field.tld.fault? v = none ↔ ∃ terms, termsOf v = .ok terms := by
  cases reads : termsOf v <;> simp [Field.fault?, readTerms, reads, Except.mapError]

theorem fault?_lifecycle_eq_none_iff :
    Field.lifecycle.fault? v = none ↔ ∃ state, readLifecycle v = .ok state := by
  cases reads : readLifecycle v <;> simp [Field.fault?, reads]

/-- What is not there is no problem. -/
theorem fault?_null (field : Field) : field.fault? .null = none := by
  cases field <;> rfl

theorem problem?_eq_none_iff :
    field.problem? fields = none ↔ field.fault? (Field.raw fields field) = none := by
  unfold Field.problem? Field.raw
  cases firstPresent? fields field.keys with
  | none => simp [fault?_null]
  | some pair => cases found : field.fault? pair.2 <;> simp [found]

theorem mem_all (field : Field) : field ∈ Field.all :=
  List.one_le_count_iff.mp (count_all field).ge

theorem problems_eq_nil_iff :
    problems fields = [] ↔ ∀ field, Field.fault? field (Field.raw fields field) = none := by
  simp only [problems, List.filterMap_eq_nil_iff, problem?_eq_none_iff]
  exact ⟨fun each field => each field (mem_all field), fun each field _ => each field⟩

theorem gives_ofFields (clean : problems fields = []) : Gives fields (ofFields fields) := by
  have each := problems_eq_nil_iff.mp clean
  constructor
  case text =>
    intro text
    obtain ⟨found, reads⟩ := fault?_text.mp (each (.text text))
    simp only [ofFields, readText, reads]
    rfl
  case tlds =>
    obtain ⟨terms, reads⟩ := fault?_tld.mp (each .tld)
    simp only [ofFields, readTerms, reads]
    rfl
  case lifecycle =>
    obtain ⟨state, reads⟩ := fault?_lifecycle_eq_none_iff.mp (each .lifecycle)
    simp only [ofFields, reads]
    rfl
  case safeSpamhausOnly | safeViewsTotalOnly => rfl

theorem Gives.problems_eq_nil (gives : Gives fields criteria) : problems fields = [] := by
  rw [problems_eq_nil_iff]
  intro field
  cases field with
  | text text => exact fault?_text.mpr ⟨_, gives.text text⟩
  | tld => exact fault?_tld.mpr ⟨_, gives.tlds⟩
  | lifecycle => exact fault?_lifecycle_eq_none_iff.mpr ⟨_, gives.lifecycle⟩
  | safeSpamhausOnly | safeViewsTotalOnly => rfl

theorem Gives.ofFields_eq (gives : Gives fields criteria) : ofFields fields = criteria := by
  have text (field : TextField) :
      okOr none (readText (Field.raw fields (.text field))) = criteria.text field := by
    rw [readText, gives.text]
    rfl
  have tlds : okOr [] (readTerms (Field.raw fields .tld)) = criteria.tlds := by
    rw [readTerms, gives.tlds]
    rfl
  have lifecycle : okOr none (readLifecycle (Field.raw fields .lifecycle)) = criteria.lifecycle := by
    rw [gives.lifecycle]
    rfl
  unfold ofFields
  simp only [text, tlds, lifecycle, gives.safeSpamhausOnly, gives.safeViewsTotalOnly]

theorem ofValue_object_eq_ok_iff :
    ofValue (.object fields) = .ok criteria ↔ Gives fields criteria := by
  constructor
  · intro accepted
    rw [ofValue] at accepted
    cases found : problems fields with
    | nil =>
      rw [found] at accepted
      cases accepted
      exact gives_ofFields found
    | cons first more =>
      rw [found] at accepted
      cases accepted
  · intro gives
    rw [ofValue, gives.problems_eq_nil, gives.ofFields_eq]

/-! ### Texts and terms -/

variable {s : String} {c : Char}

theorem solid_of_mem_pieces {separator : Char → Bool} {cs piece : List Char}
    (member : piece ∈ pieces separator cs) (inside : c ∈ piece) : separator c = false := by
  induction cs generalizing piece with
  | nil =>
    cases List.mem_singleton.mp member
    cases inside
  | cons d rest ih =>
    unfold pieces at member
    split at member
    · rcases List.mem_cons.mp member with rfl | later
      · cases inside
      · exact ih later inside
    next solid =>
      split at member
      next nothing =>
        cases List.mem_singleton.mp member
        cases List.mem_singleton.mp inside
        simpa using solid
      next first more split =>
        rw [split] at ih
        rcases List.mem_cons.mp member with rfl | later
        · rcases List.mem_cons.mp inside with rfl | others
          · simpa using solid
          · exact ih List.mem_cons_self others
        · exact ih (List.mem_cons_of_mem _ later) inside

/-- A term that is split off a text holds no blanks. -/
theorem solid_of_mem_splitTerms {t : String} (listed : t ∈ splitTerms s) (inside : c ∈ t.toList) :
    isBlank c = false := by
  obtain ⟨run, member, rfl⟩ := List.mem_map.mp listed
  rw [String.toList_ofList] at inside
  have apart := solid_of_mem_pieces (List.mem_filter.mp member).1 inside
  exact (Bool.or_eq_false_iff.mp apart).2

theorem ne_empty_of_mem_splitTerms {t : String} (listed : t ∈ splitTerms s) : t ≠ "" := by
  obtain ⟨run, member, rfl⟩ := List.mem_map.mp listed
  have filled := (List.mem_filter.mp member).2
  rintro empty
  rw [String.ofList_eq_empty_iff.mp empty] at filled
  cases filled

/-- The terms of a list are the texts of its items; those of anything else are not empty and hold no
blanks. -/
theorem termsOf_cases {v : Value} {terms : List String} (reads : termsOf v = .ok terms) :
    (∃ items, v = .list items ∧
        ∀ t, t ∈ terms ↔ ∃ item ∈ items, textOf item = .ok (some t)) ∨
      ((∀ items, v ≠ .list items) ∧ ∀ t ∈ terms, t ≠ "" ∧ ∀ c ∈ t.toList, isBlank c = false) := by
  by_cases many : ∃ items, v = .list items
  · obtain ⟨items, rfl⟩ := many
    rw [termsOf] at reads
    cases texts : items.mapM textOf with
    | error shape =>
      rw [texts] at reads
      cases reads
    | ok found =>
      rw [texts] at reads
      cases reads
      refine .inl ⟨items, rfl, fun t => ?_⟩
      rw [List.mem_filterMap, ← mem_of_mapM_eq_ok texts]
      simp
  · have single : ∀ items, v ≠ .list items := by simpa using many
    rw [termsOf.eq_2 _ single] at reads
    refine .inr ⟨single, ?_⟩
    cases text : textOf v with
    | error shape =>
      rw [text] at reads
      cases reads
    | ok found =>
      rw [text] at reads
      cases found with
      | none =>
        cases reads
        exact fun t listed => absurd listed List.not_mem_nil
      | some s =>
        cases reads
        intro t listed
        exact ⟨ne_empty_of_mem_splitTerms listed, fun c => solid_of_mem_splitTerms listed⟩

/-- A text is trimmed and not blank, so that it is read again as it stands. -/
def Settled (s : String) : Prop := nonBlank? s = some s

theorem settled_iff : Settled s ↔ s ≠ "" ∧ trim s = s := by
  unfold Settled nonBlank?
  by_cases blank : trim s = ""
  · simp only [blank, if_true, reduceCtorEq, false_iff, not_and]
    exact fun filled empty => filled empty.symm
  · simp only [blank, if_false, Option.some.injEq, iff_and_self]
    exact fun trimmed => trimmed ▸ blank

theorem trim_trim (s : String) : trim (trim s) = trim s := by
  rw [trim, trim, String.toList_ofList, trimBoth_trimBoth]

theorem trim_of_solid (solid : ∀ c ∈ s.toList, isBlank c = false) : trim s = s := by
  have same : trimBoth isBlank s.toList = s.toList := by
    apply trimBoth_eq_self <;> rw [Option.any_eq_false]
    · exact fun c first => solid c (List.mem_of_mem_head? first)
    · exact fun c last => solid c (List.mem_of_getLast? last)
  rw [trim, same, String.ofList_toList]

theorem settled_of_nonBlank? {raw : String} (reads : nonBlank? raw = some s) : Settled s := by
  unfold nonBlank? at reads
  dsimp only at reads
  split at reads
  · cases reads
  next filled =>
    cases reads
    exact settled_iff.mpr ⟨filled, trim_trim raw⟩

theorem settled_of_textOf (reads : textOf v = .ok (some s)) : Settled s := by
  unfold textOf at reads
  split at reads
  case h_1 | h_4 | h_5 => cases reads
  case h_2 b =>
    cases reads
    cases b with
    | false => exact settled_iff.mpr (by decide +kernel)
    | true => exact settled_iff.mpr (by decide +kernel)
  case h_3 n =>
    split at reads
    · exact settled_of_nonBlank? (Except.ok.inj reads)
    · cases reads
  case h_6 => exact settled_of_nonBlank? (Except.ok.inj reads)

theorem settled_of_termsOf {terms : List String} (reads : termsOf v = .ok terms) :
    ∀ t ∈ terms, Settled t := by
  intro t listed
  rcases termsOf_cases reads with ⟨items, -, texts⟩ | ⟨-, solid⟩
  · obtain ⟨item, -, text⟩ := (texts t).mp listed
    exact settled_of_textOf text
  · obtain ⟨filled, unblank⟩ := solid t listed
    exact settled_iff.mpr ⟨filled, trim_of_solid unblank⟩

/-- Whatever was read, the texts in it are settled. -/
theorem settled_of_ofValue {raw : Value} (accepted : ofValue raw = .ok criteria) :
    (∀ field s, criteria.text field = some s → Settled s) ∧ ∀ t ∈ criteria.tlds, Settled t := by
  cases raw with
  | object fields =>
    have gives := ofValue_object_eq_ok_iff.mp accepted
    refine ⟨fun field s given => settled_of_textOf (v := Field.raw fields (.text field)) ?_,
      settled_of_termsOf gives.tlds⟩
    rw [gives.text, given]
  | null =>
    cases accepted
    exact ⟨nofun, nofun⟩
  | bool | int | real | text | ragged | list => cases accepted

end DomainScout.Criteria
