import DomainScout.Json.Reader

/-!
# What documents hold

An integer is read only up to a limit on the number of its digits. So every integer in the value of
a document is below a power of ten, however deep it stands, and the value is legible: whatever
integer is found in it can be written out again under the same limit.

Main statement: `legible_of_parseGlyphs?`.
-/
namespace DomainScout

/-! ### Digits -/

namespace Text

theorem lt_ten_of_digitValue {c : Char} {digit : Nat} (read : digitValue c = some digit) :
    digit < 10 := by
  simp only [digitValue, Option.map_eq_some_iff] at read
  obtain ⟨first, found, rfl⟩ := read
  have near := List.find?_some found
  simp only [Bool.and_eq_true, decide_eq_true_eq] at near
  omega

theorem digitsValue_lt {digits : List Nat} (small : ∀ digit ∈ digits, digit < 10) :
    digitsValue digits < Nat.pow 10 digits.length := by
  -- Digits that were read before stand in front, so the induction is for any start.
  have step : ∀ start, digits.foldl (fun n d => 10 * n + d) start <
      (start + 1) * Nat.pow 10 digits.length := by
    induction digits with
    | nil => simp
    | cons digit digits ih =>
      intro start
      have here := small digit List.mem_cons_self
      have rest := ih (fun other member => small other (List.mem_cons_of_mem _ member))
        (10 * start + digit)
      calc (digit :: digits).foldl (fun n d => 10 * n + d) start
          < (10 * start + digit + 1) * Nat.pow 10 digits.length := rest
        _ ≤ ((start + 1) * 10) * Nat.pow 10 digits.length := Nat.mul_le_mul_right _ (by omega)
        _ = (start + 1) * Nat.pow 10 (digit :: digits).length := by
          rw [Nat.mul_assoc, Nat.mul_comm 10]
          rfl
  simpa [digitsValue] using step 0

theorem pow_ten_mono {a b : Nat} (le : a ≤ b) : Nat.pow 10 a ≤ Nat.pow 10 b :=
  Nat.pow_le_pow_right (by decide) le

end Text

namespace Number

open Text

theorem readDigitsAfter_small (afterDigit : Bool) (cs : List Char) :
    ∀ digit ∈ (readDigitsAfter afterDigit cs).1, digit < 10 := by
  induction cs generalizing afterDigit with
  | nil => simp [readDigitsAfter]
  | cons c rest ih =>
    rw [readDigitsAfter]
    split
    next digit read =>
      simpa [lt_ten_of_digitValue read] using ih true
    next =>
      split
      · exact ih false
      · simp

/-- What is read as an integer is below a power of ten. -/
theorem natAbs_lt_of_readInt? {cs : List Char} {n : Int} (read : readInt? cs = some n) :
    n.natAbs < Nat.pow 10 maxIntegerDigits := by
  simp only [readInt?] at read
  split at read
  next short =>
    simp only [Bool.and_eq_true, decide_eq_true_eq] at short
    have value := digitsValue_lt (readDigitsAfter_small false (readSign (unpad cs)).2)
    have size : n.natAbs = digitsValue (readDigits (readSign (unpad cs)).2).1 := by
      rw [← Option.some.inj read, Binary64.signed]
      split <;> simp
    rw [size]
    exact Nat.lt_of_lt_of_le value (pow_ten_mono short.2)
  next => cases read

end Number

/-! ### Values -/

/-- Every integer in a value is short enough to be written out. -/
inductive Value.Legible : Value → Prop
  | null : Legible .null
  | bool {b : Bool} : Legible (.bool b)
  | int {n : Int} (short : n.natAbs < Nat.pow 10 Number.maxIntegerDigits) : Legible (.int n)
  | real {x : Binary64} : Legible (.real x)
  | text {s : String} : Legible (.text s)
  | ragged {glyphs : Text.Glyphs} : Legible (.ragged glyphs)
  | list {items : List Value} (each : ∀ item ∈ items, Legible item) : Legible (.list items)
  | object {fields : Fields} (each : ∀ field ∈ fields, Legible field.2) : Legible (.object fields)

namespace Value

theorem legible_ofGlyphs (glyphs : Text.Glyphs) : (ofGlyphs glyphs).Legible := by
  unfold ofGlyphs
  split
  · exact .text
  · exact .ragged

theorem legible_cons {name : FieldName} {v : Value} {fields : Fields} (legible : v.Legible)
    (each : ∀ field ∈ fields, field.2.Legible) : ∀ field ∈ (name, v) :: fields, field.2.Legible :=
  List.forall_mem_cons.mpr ⟨legible, each⟩

theorem legible_put {name : FieldName} {v : Value} {fields : Fields} (legible : v.Legible)
    (each : ∀ field ∈ fields, field.2.Legible) : ∀ field ∈ put name v fields, field.2.Legible := by
  induction fields with
  | nil => simpa [put] using legible
  | cons first rest ih =>
    rw [List.forall_mem_cons] at each
    rw [put]
    split
    · exact legible_cons legible each.2
    · exact List.forall_mem_cons.mpr ⟨each.1, ih each.2⟩

theorem legible_ofPairs {pairs : Fields} (each : ∀ pair ∈ pairs, pair.2.Legible) :
    (object (ofPairs pairs)).Legible := by
  have kept : ∀ fields : Fields, (∀ field ∈ fields, field.2.Legible) →
      ∀ field ∈ pairs.foldl (fun fields pair => put pair.1 pair.2 fields) fields, field.2.Legible := by
    induction pairs with
    | nil => exact fun fields legible => legible
    | cons pair pairs ih =>
      rw [List.forall_mem_cons] at each
      exact fun fields legible => ih each.2 _ (legible_put each.1 legible)
  exact .object (kept [] (by simp))

end Value

/-! ### Documents -/

namespace Json

open Text

variable {gs rest : Glyphs} {v : Value}

theorem legible_of_readNumber? (read : readNumber? gs = some (v, rest)) : v.Legible := by
  simp only [readNumber?, Option.bind_eq_bind, Option.bind_eq_some_iff] at read
  obtain ⟨⟨whole, afterWhole⟩, -, read⟩ := read
  split at read
  · obtain ⟨n, integer, eq⟩ := Option.bind_eq_some_iff.mp read
    cases eq
    exact .int (Number.natAbs_lt_of_readInt? integer)
  · obtain ⟨x, -, eq⟩ := Option.bind_eq_some_iff.mp read
    cases eq
    exact .real

theorem legible_of_readWord? {word : String} {known : Value} (legible : known.Legible)
    (read : readWord? word known gs = some (v, rest)) : v.Legible := by
  obtain ⟨after, -, eq⟩ := Option.map_eq_some_iff.mp read
  cases eq
  exact legible

theorem legible_of_readAtom? (read : readAtom? gs = some (v, rest)) : v.Legible := by
  simp only [readAtom?, Option.orElse_eq_orElse, Option.orElse_eq_or, Option.or_eq_some_iff] at read
  rcases read with word | ⟨-, word | ⟨-, word | ⟨-, word | ⟨-, word | ⟨-, word | ⟨-, number⟩⟩⟩⟩⟩⟩
  · exact legible_of_readWord? .null word
  · exact legible_of_readWord? .bool word
  · exact legible_of_readWord? .bool word
  · exact legible_of_readWord? .real word
  · exact legible_of_readWord? .real word
  · exact legible_of_readWord? .real word
  · exact legible_of_readNumber? number

/-- What is read with some fuel is legible, and so are lists and objects whose parts so far are. -/
theorem legible_of_read (fuel : Nat) :
    (∀ {gs v rest}, readValue? fuel gs = some (v, rest) → v.Legible) ∧
      (∀ {sofar gs v rest}, (∀ item ∈ sofar, item.Legible) →
        readItems? fuel sofar gs = some (v, rest) → v.Legible) ∧
      (∀ {sofar : Fields} {gs v rest}, (∀ field ∈ sofar, field.2.Legible) →
        readFields? fuel sofar gs = some (v, rest) → v.Legible) := by
  -- The three readers call one another with less fuel, so they are taken together.
  induction fuel with
  | zero =>
    refine ⟨?_, ?_, ?_⟩
    · intro gs v rest read
      simp [readValue?] at read
    · intro sofar gs v rest each read
      simp [readItems?] at read
    · intro sofar gs v rest each read
      simp [readFields?] at read
  | succ fuel ih =>
    obtain ⟨value, items, fields⟩ := ih
    refine ⟨?_, ?_, ?_⟩
    · intro gs v rest read
      unfold readValue? at read
      split at read
      next => cases read
      next =>
        obtain ⟨⟨glyphs, after⟩, -, eq⟩ := Option.map_eq_some_iff.mp read
        cases eq
        exact Value.legible_ofGlyphs glyphs
      next same =>
        cases same
        split at read
        · cases read
          exact .list (by simp)
        · exact items (by simp) read
      next same =>
        cases same
        split at read
        · cases read
          exact .object (by simp)
        · exact fields (by simp) read
      next => exact legible_of_readAtom? read
    · intro sofar gs v rest each read
      unfold readItems? at read
      split at read
      next => cases read
      next item left found =>
        have more : ∀ other ∈ item :: sofar, other.Legible :=
          List.forall_mem_cons.mpr ⟨value found, each⟩
        split at read
        · exact items more read
        · cases read
          exact .list fun other member => more other (List.mem_reverse.mp member)
        · cases read
    · intro sofar gs v rest each read
      unfold readFields? at read
      split at read
      next => cases read
      next same =>
        cases same
        split at read
        next => cases read
        next =>
          split at read
          next =>
            split at read
            next => cases read
            next held left found =>
              simp only at read
              split at read
              · exact fields (Value.legible_cons (value found) each) read
              · cases read
                apply Value.legible_ofPairs
                intro field member
                exact Value.legible_cons (value found) each field (List.mem_reverse.mp member)
              · cases read
          next => cases read
      next => cases read

/-- The value of a document is legible. -/
theorem legible_of_parseGlyphs? (read : parseGlyphs? gs = some v) : v.Legible := by
  unfold parseGlyphs? at read
  split at read
  next value rest found =>
    split at read
    · cases read
      exact (legible_of_read _).1 found
    · cases read
  next => cases read

end Json

end DomainScout
