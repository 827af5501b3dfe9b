import DomainScout.Criteria.Reading
import DomainScout.Proofs.Json.Reader
import DomainScout.Proofs.Text.Case

/-!
# The language of criteria

Criteria are a missing value or an object. What an object holds for a filter is found under the
first of its keys that is present, and every filter takes scalars: a text filter any of them, the
top-level domains also a list of them, and the lifecycle filter those that spell a state or
nothing. An object is refused with one complaint about each filter that does not take what is there
for it.

Main statement: `language`.
-/
namespace DomainScout.Criteria

open Text

/-! ### The language -/

/-- The keys of a filter, in the order of preference. -/
def Field.inputKeys : Field → List String
  | .lifecycle => ["lifecycleState", "expiredState", "lifecycle_state", "expired_state"]
  | field => [camelCase field.name, field.name]

/-- The first key of a filter that is present, and its value. -/
def Field.given? (fields : Fields) (field : Field) : Option (String × Value) :=
  field.inputKeys.findSome? fun key : String => (Value.lookup? key fields).map fun v => (key, v)

/-- The values that a filter takes. -/
def Field.takes : Field → Value → Bool
  | .text _, v => v.isScalar
  | .tld, .list items => items.all Value.isScalar
  | .tld, v => v.isScalar
  | .lifecycle, .null => true
  | .lifecycle, v =>
    v.isScalar && ["", "active", "expiring", "deleted"].contains (lower (trim v.display))
  | .safeSpamhausOnly, _ | .safeViewsTotalOnly, _ => true

/-- What is told of a value that should be a scalar, or of a scalar that spells no state. -/
def told : Value → String
  | .list _ => "Value error, expected a scalar value, got list"
  | .object _ => "Value error, expected a scalar value, got dict"
  | _ => "Input should be 'active', 'expiring' or 'deleted'"

/-- What is told of a value that a filter does not take: of a list of top-level domains, what is
told of the first item that is no scalar. -/
def Field.complaint : Field → Value → String
  | .tld, .list items => ((items.find? fun item => !item.isScalar).map told).getD ""
  | _, v => told v

/-- The complaint about what is there for a filter, under the key that was used. -/
def Field.complaint? (fields : Fields) (field : Field) : Option String :=
  match field.given? fields with
  | some (key, v) => if field.takes v then none else some (key ++ ": " ++ field.complaint v)
  | none => none

/-- The values that are criteria. -/
def accepts : Value → Bool
  | .null => true
  | .object fields => Field.all.all fun field => (field.given? fields).all fun (_, v) => field.takes v
  | _ => false

/-! ### Keys -/

theorem keys_eq (field : Field) : field.keys = field.inputKeys := by
  cases field with
  | lifecycle => decide +kernel
  | text | tld | safeSpamhausOnly | safeViewsTotalOnly => rfl

theorem firstPresent?_eq (fields : Fields) (keys : List String) :
    firstPresent? fields keys =
      keys.findSome? fun key : String => (Value.lookup? key fields).map fun v => (key, v) := by
  induction keys with
  | nil => rfl
  | cons key keys ih =>
    rw [firstPresent?, List.findSome?_cons]
    cases Value.lookup? key fields with
    | none => exact ih
    | some v => rfl

theorem firstPresent?_keys (fields : Fields) (field : Field) :
    firstPresent? fields field.keys = field.given? fields := by
  rw [firstPresent?_eq, keys_eq]
  rfl

/-! ### Scalars -/

variable {v : Value}

/-- The text of a legible scalar is its display, trimmed, but for the case of a truth value. -/
theorem textOf_of_isScalar (legible : v.Legible) (scalar : v.isScalar = true) (there : v ≠ .null) :
    ∃ s, textOf v = .ok (nonBlank? s) ∧ lower (trim s) = lower (trim v.display) := by
  cases legible with
  | null => exact absurd rfl there
  | @bool b =>
    -- Truth values are displayed with a capital letter and read without one.
    cases b with
    | false => exact ⟨"false", by decide +kernel, by decide +kernel⟩
    | true => exact ⟨"true", by decide +kernel, by decide +kernel⟩
  | int short =>
    refine ⟨_, ?_, rfl⟩
    rw [textOf, isWritable, decide_eq_true short]
    rfl
  | real | text | ragged => exact ⟨_, rfl, rfl⟩
  | list | object => cases scalar

/-- A legible value has a text unless it is a list or an object, which is then told. -/
theorem textOf_cases (legible : v.Legible) :
    (v.isScalar = true ∧ ∃ text, textOf v = .ok text) ∨
      (v.isScalar = false ∧ ∃ shape, textOf v = .error shape ∧
        (Fault.notScalar shape).message = told v) := by
  have scalar (filled : v ≠ .null) (scalar : v.isScalar = true) :
      v.isScalar = true ∧ ∃ text, textOf v = .ok text := by
    obtain ⟨s, eq, -⟩ := textOf_of_isScalar legible scalar filled
    exact ⟨scalar, _, eq⟩
  cases legible with
  | null => exact .inl ⟨rfl, none, rfl⟩
  | list =>
    have message : (Fault.notScalar .list).message =
      "Value error, expected a scalar value, got list" := by decide +kernel
    exact .inr ⟨rfl, .list, rfl, message⟩
  | object =>
    have message : (Fault.notScalar .object).message =
      "Value error, expected a scalar value, got dict" := by decide +kernel
    exact .inr ⟨rfl, .object, rfl, message⟩
  | bool | int | real | text | ragged => exact .inl (scalar nofun rfl)

/-- A list of legible values has texts unless some item is no scalar, and the first such is told. -/
theorem mapM_textOf_cases {items : List Value} (legible : ∀ item ∈ items, item.Legible) :
    (items.all Value.isScalar = true ∧ ∃ texts, items.mapM textOf = .ok texts) ∨
      (items.all Value.isScalar = false ∧ ∃ shape, items.mapM textOf = .error shape ∧
        (Fault.notScalar shape).message =
          ((items.find? fun item => !item.isScalar).map told).getD "") := by
  induction items with
  | nil => exact .inl ⟨rfl, [], rfl⟩
  | cons item rest ih =>
    rw [List.forall_mem_cons] at legible
    rw [List.mapM_cons, List.all_cons, List.find?_cons]
    rcases textOf_cases legible.1 with ⟨scalar, text, eq⟩ | ⟨nested, shape, eq, message⟩
    · rw [eq, scalar]
      rcases ih legible.2 with ⟨scalars, texts, eq'⟩ | ⟨nested, shape, eq', message⟩
      · rw [eq']
        exact .inl ⟨scalars, text :: texts, rfl⟩
      · rw [eq']
        exact .inr ⟨nested, shape, rfl, message⟩
    · rw [eq, nested]
      exact .inr ⟨rfl, shape, rfl, message⟩

/-! ### Filters -/

/-- A filter takes a value, or what is told about it is the complaint. -/
def Judged (field : Field) (v : Value) : Prop :=
  (field.takes v = true ∧ field.fault? v = none) ∨
    (field.takes v = false ∧ (field.fault? v).map Fault.message = some (field.complaint v))

theorem judged_text (legible : v.Legible) (text : TextField) : Judged (.text text) v := by
  rcases textOf_cases legible with ⟨scalar, text, eq⟩ | ⟨nested, shape, eq, message⟩
  · exact .inl ⟨scalar, by simp [Field.fault?, readText, eq, Except.mapError]⟩
  · refine .inr ⟨nested, ?_⟩
    simpa [Field.fault?, readText, eq, Except.mapError, Field.complaint] using message

theorem judged_tld (legible : v.Legible) : Judged .tld v := by
  -- Whatever is no list is read as a single term.
  have single (other : ∀ items, v ≠ .list items) (takes : Field.tld.takes v = v.isScalar)
      (complaint : Field.tld.complaint v = told v) : Judged .tld v := by
    have terms := termsOf.eq_2 v other
    unfold Judged
    rw [takes, complaint]
    rcases textOf_cases legible with ⟨scalar, text, eq⟩ | ⟨nested, shape, eq, message⟩
    · rw [eq] at terms
      exact .inl ⟨scalar, by simp only [Field.fault?, readTerms, terms]; rfl⟩
    · rw [eq] at terms
      refine .inr ⟨nested, ?_⟩
      simp only [Field.fault?, readTerms, terms]
      exact congrArg some message
  cases legible with
  | list each =>
    rcases mapM_textOf_cases each with ⟨scalars, texts, eq⟩ | ⟨nested, shape, eq, message⟩
    · exact .inl ⟨scalars, by simp only [Field.fault?, readTerms, termsOf, eq]; rfl⟩
    · refine .inr ⟨nested, ?_⟩
      simp only [Field.fault?, readTerms, termsOf, eq]
      exact congrArg some message
  | null | bool | int | real | text | ragged | object => exact single (by simp) rfl rfl

theorem isSome_ofName? (name : String) :
    (Lifecycle.ofName? name).isSome = ["active", "expiring", "deleted"].contains name := by
  rw [Bool.eq_iff_iff, Lifecycle.ofName?, List.isSome_find?]
  simp only [List.any_cons, List.any_nil, List.contains_cons, List.contains_nil, Bool.or_eq_true,
    decide_eq_true_eq, beq_iff_eq]
  simp only [Lifecycle.name, eq_comm (a := name)]

theorem lower_ne_empty {s : String} (filled : s ≠ "") : lower s ≠ "" := by
  intro empty
  have chars : s.toList ≠ [] := fun none => filled (String.toList_eq_nil_iff.mp none)
  exact lowerAfter_ne_nil chars (String.ofList_eq_empty_iff.mp empty)

theorem readLifecycle_of_none (reads : textOf v = .ok none) : readLifecycle v = .ok none := by
  unfold readLifecycle readText
  rw [reads]
  rfl

theorem readLifecycle_of_some {s : String} (reads : textOf v = .ok (some s)) :
    readLifecycle v = match Lifecycle.ofName? (lower s) with
      | some state => .ok (some state)
      | none => .error .unknownState := by
  unfold readLifecycle readText
  rw [reads]
  simp only [Except.mapError, bind, Except.bind]
  cases Lifecycle.ofName? (lower s) <;> rfl

/-- A lifecycle state is read from nothing but blanks and from the names of the states. -/
theorem fault?_lifecycle {s : String} (text : textOf v = .ok (nonBlank? s)) :
    Field.lifecycle.fault? v =
      if ["", "active", "expiring", "deleted"].contains (lower (trim s)) then none
      else some .unknownState := by
  unfold Field.fault?
  -- Blanks are no name of a state, and are taken all the same.
  by_cases blank : trim s = ""
  · have reads : textOf v = .ok none := by simp [text, nonBlank?, blank]
    have empty : lower "" = "" := by decide
    have named : ["", "active", "expiring", "deleted"].contains (lower (trim s)) = true := by
      rw [blank, empty, List.contains_cons, beq_self_eq_true, Bool.true_or]
    rw [named, readLifecycle_of_none reads]
    rfl
  · have reads : textOf v = .ok (some (trim s)) := by simp [text, nonBlank?, blank]
    have named : ["", "active", "expiring", "deleted"].contains (lower (trim s)) =
        (Lifecycle.ofName? (lower (trim s))).isSome := by
      rw [isSome_ofName?, List.contains_cons, beq_eq_false_iff_ne.mpr (lower_ne_empty blank),
        Bool.false_or]
    rw [named, readLifecycle_of_some reads]
    cases Lifecycle.ofName? (lower (trim s)) <;> rfl

theorem judged_lifecycle (legible : v.Legible) : Judged .lifecycle v := by
  by_cases missing : v = .null
  · rw [missing]
    exact .inl ⟨rfl, rfl⟩
  have takes : Field.lifecycle.takes v = (v.isScalar &&
      ["", "active", "expiring", "deleted"].contains (lower (trim v.display))) := by
    cases v <;> first | rfl | exact absurd rfl missing
  have complaint : Field.lifecycle.complaint v = told v := by cases v <;> rfl
  unfold Judged
  rw [takes, complaint]
  rcases textOf_cases legible with ⟨scalar, -⟩ | ⟨nested, shape, eq, message⟩
  · obtain ⟨s, text, same⟩ := textOf_of_isScalar legible scalar missing
    have unknown : told v = Fault.message .unknownState := by
      cases v <;> first | rfl | cases scalar
    rw [scalar, Bool.true_and, ← same, fault?_lifecycle text, unknown]
    generalize ["", "active", "expiring", "deleted"].contains (lower (trim s)) = named
    cases named <;> simp
  · rw [nested]
    refine .inr ⟨rfl, ?_⟩
    simp only [Field.fault?, readLifecycle, readText, eq]
    exact congrArg some message

theorem judged (legible : v.Legible) (field : Field) : Judged field v := by
  cases field with
  | text text => exact judged_text legible text
  | tld => exact judged_tld legible
  | lifecycle => exact judged_lifecycle legible
  | safeSpamhausOnly | safeViewsTotalOnly => exact .inl ⟨rfl, rfl⟩

/-! ### Objects -/

theorem mem_of_lookup? {fields : Fields} {name : FieldName}
    (found : Value.lookup? name fields = some v) : (name, v) ∈ fields := by
  obtain ⟨before, behind, rfl, -⟩ := List.lookup_eq_some_iff.mp found
  simp

theorem legible_given? {fields : Fields} {field : Field} {key : String}
    (legible : (Value.object fields).Legible) (given : field.given? fields = some (key, v)) :
    v.Legible := by
  cases legible with
  | object each =>
    obtain ⟨key, -, found⟩ := List.exists_of_findSome?_eq_some given
    obtain ⟨value, here, eq⟩ := Option.map_eq_some_iff.mp found
    cases eq
    exact each (.plain key, v) (mem_of_lookup? here)

/-- The filters of an object whose values are legible have problems exactly where there are
complaints, and they tell these. -/
theorem message_problem? {fields : Fields} (legible : (Value.object fields).Legible) (field : Field) :
    (field.problem? fields).map Problem.message = field.complaint? fields := by
  unfold Field.problem? Field.complaint?
  rw [firstPresent?_keys]
  cases given : field.given? fields with
  | none => rfl
  | some pair =>
    obtain ⟨key, v⟩ := pair
    rcases judged (legible_given? legible given) field with ⟨takes, fault⟩ | ⟨refuses, fault⟩
    · simp [takes, fault]
    · obtain ⟨fault, eq, message⟩ := Option.map_eq_some_iff.mp fault
      simp [refuses, eq, Problem.message, message]

theorem map_message_problems {fields : Fields} (legible : (Value.object fields).Legible) :
    (problems fields).map Problem.message = Field.all.filterMap (Field.complaint? fields) := by
  rw [problems, List.map_filterMap]
  exact congrArg (Field.all.filterMap ·) (funext (message_problem? legible))

theorem complaint?_eq_none_iff {fields : Fields} {field : Field} : field.complaint? fields = none ↔
    (field.given? fields).all (fun (_, v) => field.takes v) = true := by
  unfold Field.complaint?
  cases field.given? fields with
  | none => simp
  | some pair => simp

theorem count_all (field : Field) : Field.all.count field = 1 := by
  cases field with
  | text text => cases text <;> decide
  | tld | lifecycle | safeSpamhausOnly | safeViewsTotalOnly => decide

/-- What becomes of a value that is to be read as criteria. -/
structure Read (raw : Value) : Prop where
  /-- It is read exactly if it belongs to the language. -/
  accepted : (∃ criteria, ofValue raw = .ok criteria) ↔ accepts raw = true
  /-- What is neither missing nor an object is refused as such. -/
  notObject : raw ≠ .null → (∀ fields, raw ≠ .object fields) →
    ∃ refusal, ofValue raw = .error refusal ∧ refusal.message = "criteria must be an object"
  /-- An object is refused with its complaints, in the order of the filters. -/
  complaints (fields : Fields) : raw = .object fields → accepts raw = false →
    ∃ refusal, ofValue raw = .error refusal ∧ refusal.message = "Invalid criteria: " ++
      "; ".intercalate (Field.all.filterMap (Field.complaint? fields))
  /-- Every filter comes once in that order. -/
  once (field : Field) : Field.all.count field = 1

theorem accepts_object {fields : Fields} (legible : (Value.object fields).Legible) :
    accepts (.object fields) = true ↔ problems fields = [] := by
  rw [← List.map_eq_nil_iff, map_message_problems legible, List.filterMap_eq_nil_iff]
  simp only [complaint?_eq_none_iff, accepts, List.all_eq_true]

theorem read_object {fields : Fields} (legible : (Value.object fields).Legible) :
    Read (.object fields) := by
  have fine := accepts_object legible
  have complaints := map_message_problems legible
  constructor
  case accepted =>
    rw [fine, ofValue]
    cases problems fields <;> simp
  case notObject => exact fun _ other => absurd rfl (other fields)
  case complaints =>
    intro fields' same refused
    cases same
    cases found : problems fields with
    | nil =>
      rw [fine.mpr found] at refused
      cases refused
    | cons first more =>
      refine ⟨.problems first more, by rw [ofValue, found], ?_⟩
      rw [← complaints, found]
      rfl
  case once => exact count_all

theorem read_of_legible {raw : Value} (legible : raw.Legible) : Read raw := by
  cases raw with
  | object fields => exact read_object legible
  | null =>
    constructor
    case accepted => simp [ofValue, accepts]
    case notObject => exact fun there => absurd rfl there
    case complaints => simp
    case once => exact count_all
  | bool | int | real | text | ragged | list =>
    constructor
    case accepted => simp [ofValue, accepts]
    case notObject => exact fun _ _ => ⟨.notObject, rfl, rfl⟩
    case complaints => simp
    case once => exact count_all

end DomainScout.Criteria
