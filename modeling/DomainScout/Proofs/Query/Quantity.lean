import DomainScout.Proofs.Number.Decimal
import DomainScout.Query.Quantity

/-!
# All readers of numbers agree

Ages, days and page numbers are read by readers of their own, which differ in their bounds only: a
text is a finite number for all of them or for none, and they round it toward zero. So what they
give grows with the number that a value stands for, be it a number, a truth value or a text, and
what is within bounds stays what it is.

Main statement: `readers_agree`.
-/
namespace DomainScout.Query

open Binary64

/-! ### Finite numbers -/

/-- The value of the finite number that a text is read as. -/
def numberOf? (s : String) : Option ℚ := (Number.readReal? s.toList).bind rational?

/-- A value is read as a finite number. -/
def ReadsAs (v : Value) (q : ℚ) : Prop := ∃ x, v.toReal = .ok x ∧ x.rational? = some q

variable {s : String} {v w : Value} {q r a b : ℚ}

theorem wholeOfText?_eq_map (s : String) : wholeOfText? s = (numberOf? s).map towardZero := by
  rw [wholeOfText?, numberOf?, Option.map_bind]
  exact congrArg _ (funext truncate?_eq_map)

theorem exists_numberOf? {n : Int} (whole : wholeOfText? s = some n) :
    ∃ q, numberOf? s = some q ∧ towardZero q = n := by
  rw [wholeOfText?_eq_map] at whole
  exact Option.map_eq_some_iff.mp whole

theorem readsAs_text : ReadsAs (.text s) q ↔ numberOf? s = some q := by
  simp only [ReadsAs, numberOf?, Value.toReal]
  cases Number.readReal? s.toList with
  | none => simp
  | some x => simp

/-- A value that is read as a finite number stands for a rational one, from which the finite number
is rounded. -/
theorem ReadsAs.rounded (reads : ReadsAs v q) :
    ∃ a, v.standsFor? = some a ∧ nearest a = nearest q := by
  obtain ⟨x, real, value⟩ := reads
  obtain ⟨a, stands, place⟩ := Value.exists_standsFor? real value
  exact ⟨a, stands, place.symm.trans (place_eq_nearest value)⟩

theorem le_of_atMost {x y : Binary64} (first : x.rational? = some q) (second : y.rational? = some r)
    (ordered : x.place.atMost y.place = true) : q ≤ r := by
  obtain ⟨u, place, rfl⟩ := rational?_eq_some_iff.mp first
  obtain ⟨u', place', rfl⟩ := rational?_eq_some_iff.mp second
  rw [place, place'] at ordered
  have units : u ≤ u' := of_decide_eq_true ordered
  exact div_le_div_of_nonneg_right (by exact_mod_cast units) (Nat.cast_nonneg _)

/-- Numbers are read in the order of what they stand for. -/
theorem ReadsAs.mono (first : ReadsAs v q) (second : ReadsAs w r) (stands : v.standsFor? = some a)
    (stands' : w.standsFor? = some b) (le : a ≤ b) : q ≤ r := by
  obtain ⟨x, real, value⟩ := first
  obtain ⟨y, real', value'⟩ := second
  obtain ⟨_, same, place⟩ := Value.exists_standsFor? real value
  obtain ⟨_, same', place'⟩ := Value.exists_standsFor? real' value'
  cases stands.symm.trans same
  cases stands'.symm.trans same'
  apply le_of_atMost value value'
  rw [place, place']
  exact nearest_mono le

/-! ### Readers -/

/-- An age in whole years. -/
def wholeYears (q : ℚ) : Int := max 0 (towardZero q)

/-- A number of days to look ahead. -/
def wholeDays (q : ℚ) : Int := max 1 (towardZero q)

theorem years?_eq_map (text : Option String) : years? text = (text.bind numberOf?).map wholeYears := by
  cases text with
  | none => rfl
  | some s =>
    rw [years?, Option.bind_some, wholeOfText?_eq_map, Option.map_map]
    rfl

theorem daysOfText_eq (text : Option String) :
    daysOfText text = ((text.bind numberOf?).map wholeDays).getD defaultDays := by
  cases text with
  | none => rfl
  | some s =>
    rw [daysOfText, Option.bind_some, Option.bind_some, wholeOfText?_eq_map, daysFor, Option.map_map]
    rfl

theorem wholeOf?_text (s : String) : wholeOf? (.text s) = .ok (wholeOfText? s) := by
  rw [wholeOf?, wholeOfText?, Value.toReal]
  cases Number.readReal? s.toList with
  | none => rfl
  | some x => simp

theorem daysOf_text (s : String) : daysOf (.text s) = .ok (daysOfText (some s)) := by
  rw [daysOf, wholeOf?_text]
  rfl

theorem wholeOf?_of_readsAs (reads : ReadsAs v q) : wholeOf? v = .ok (some (towardZero q)) := by
  obtain ⟨x, real, value⟩ := reads
  rw [wholeOf?, real]
  simp only [truncate?_eq_map, value, Option.map_some]

theorem clampInt_of_readsAs (reads : ReadsAs v q) (least greatest fallback : Int) :
    clampInt v least greatest fallback = .ok (min greatest (max least (towardZero q))) := by
  rw [clampInt, wholeOf?_of_readsAs reads]
  rfl

theorem clampInt_of_none (missing : numberOf? s = none) (least greatest fallback : Int) :
    clampInt (.text s) least greatest fallback = .ok fallback := by
  rw [clampInt, wholeOf?_text, wholeOfText?_eq_map, missing]
  rfl

/-- A whole number up to `2 ^ 53` is read as itself. -/
theorem readsAs_int {n : Int} (few : n.natAbs ≤ 2 ^ 53) : ReadsAs (.int n) n := by
  have value := rational?_ofInt few
  refine ⟨ofInt n, ?_, value⟩
  rw [Value.toReal, Value.realOfInt, Value.inRange_of_rational? value]

theorem towardZero_intCast (n : Int) : towardZero n = n := by
  unfold towardZero
  split
  · exact Int.ceil_intCast n
  · exact Int.floor_intCast n

/-- What the readers of numbers have in common, given bounds for one of them. -/
structure Agree (least greatest : Int) : Prop where
  /-- A text that is no finite number is none for any of them. -/
  missing (s : String) : numberOf? s = none →
    years? (some s) = none ∧ daysOfText (some s) = 30 ∧ daysOf (.text s) = .ok 30 ∧
      ∀ fallback, clampInt (.text s) least greatest fallback = .ok fallback
  /-- Any other one is the same number for all of them. -/
  found (s : String) (q : ℚ) : numberOf? s = some q →
    years? (some s) = some (max 0 (towardZero q)) ∧ daysOfText (some s) = max 1 (towardZero q) ∧
      daysOf (.text s) = .ok (max 1 (towardZero q)) ∧ ∀ fallback,
        clampInt (.text s) least greatest fallback = .ok (min greatest (max least (towardZero q)))
  /-- A value that is read as a finite number stands for a rational one, from which that is rounded. -/
  rounded (v : Value) (q : ℚ) : ReadsAs v q → ∃ a, v.standsFor? = some a ∧ nearest a = nearest q
  /-- It gives a whole number within the bounds. -/
  within (v : Value) (q : ℚ) (fallback : Int) : ReadsAs v q →
    ∃ n, clampInt v least greatest fallback = .ok n ∧ least ≤ n ∧ n ≤ greatest
  /-- A value that is read as a greater number, or that stands for one, gives a greater whole number, or
  the same. -/
  mono (v w : Value) (q r : ℚ) (n m fallback fallback' : Int) : ReadsAs v q → ReadsAs w r →
    clampInt v least greatest fallback = .ok n → clampInt w least greatest fallback' = .ok m →
      (q ≤ r → n ≤ m) ∧
        ∀ a b, v.standsFor? = some a → w.standsFor? = some b → a ≤ b → n ≤ m
  /-- What the reader gave stays within moderate bounds what it is. -/
  again (v : Value) (q : ℚ) (n fallback fallback' : Int) : least.natAbs ≤ 2 ^ 53 →
    greatest.natAbs ≤ 2 ^ 53 → ReadsAs v q → clampInt v least greatest fallback = .ok n →
    clampInt (.int n) least greatest fallback' = .ok n

theorem readers_agree {least greatest : Int} (ordered : least ≤ greatest) : Agree least greatest where
  missing s missing := by
    have days : daysOfText (some s) = 30 := by
      rw [daysOfText_eq, Option.bind_some, missing]
      rfl
    refine ⟨?_, days, ?_, clampInt_of_none missing least greatest⟩
    · rw [years?_eq_map, Option.bind_some, missing, Option.map_none]
    · rw [daysOf_text, days]
  found s q number := by
    have days : daysOfText (some s) = max 1 (towardZero q) := by
      rw [daysOfText_eq, Option.bind_some, number]
      rfl
    refine ⟨?_, days, ?_, clampInt_of_readsAs (readsAs_text.mpr number) least greatest⟩
    · rw [years?_eq_map, Option.bind_some, number, Option.map_some, wholeYears]
    · rw [daysOf_text, days]
  rounded v q reads := reads.rounded
  within v q fallback reads := by
    refine ⟨_, clampInt_of_readsAs reads least greatest fallback, ?_⟩
    omega
  mono v w q r n m fallback fallback' first second gives gives' := by
    rw [clampInt_of_readsAs first] at gives
    rw [clampInt_of_readsAs second] at gives'
    cases gives
    cases gives'
    have mono (le : q ≤ r) : min greatest (max least (towardZero q)) ≤
        min greatest (max least (towardZero r)) := by
      have whole := towardZero_mono le
      omega
    exact ⟨mono, fun a b stands stands' le => mono (first.mono second stands stands' le)⟩
  again v q n fallback fallback' low high reads gives := by
    rw [clampInt_of_readsAs reads] at gives
    have same : n = min greatest (max least (towardZero q)) := (Except.ok.inj gives).symm
    -- Within such bounds it is a number of the format, so it is read as itself.
    have few : n.natAbs ≤ 2 ^ 53 := by omega
    rw [clampInt_of_readsAs (readsAs_int few), towardZero_intCast]
    congr 1
    omega

/-- A page size may be given as a fraction below zero. -/
theorem readers_agree_size : (1 : Int) ≤ Page.maxSize ∧ Agree 1 Page.maxSize ∧
    ∃ q, numberOf? " -2.7e0" = some q ∧ towardZero q = -2 :=
  ⟨by decide, readers_agree (by decide), exists_numberOf? (by decide +kernel)⟩

end DomainScout.Query
