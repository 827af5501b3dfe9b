import DomainScout.Proofs.Json.Reader
import DomainScout.Proofs.Number.Nearest
import DomainScout.Value.Numeric

/-!
# Decimal numbers are rounded once

A text spells a rational number, and it is read as the number nearest to that one, however many
digits it has and wherever its point stands. So texts are read in the order of the numbers that they
spell. The same holds of all other values that stand for numbers.

Main statements: `Number.readReal?_cases`, `Value.exists_standsFor?`.
-/
namespace DomainScout

open Text Binary64

/-! ### Digits -/

namespace Text

theorem foldl_digits (start : Nat) (digits : List Nat) :
    digits.foldl (fun n d => 10 * n + d) start = start * 10 ^ digits.length + digitsValue digits := by
  induction digits generalizing start with
  | nil => simp [digitsValue]
  | cons d rest ih =>
    rw [digitsValue, List.foldl_cons, List.foldl_cons, ih, ih (10 * 0 + d), List.length_cons]
    ring

theorem digitsValue_cons (d : Nat) (rest : List Nat) :
    digitsValue (d :: rest) = d * 10 ^ rest.length + digitsValue rest := by
  rw [digitsValue, List.foldl_cons, foldl_digits, Nat.mul_zero, Nat.zero_add]

theorem digitsValue_dropWhile (digits : List Nat) :
    digitsValue (digits.dropWhile (· == 0)) = digitsValue digits := by
  induction digits with
  | nil => rfl
  | cons d rest ih =>
    by_cases zero : d = 0
    · rw [List.dropWhile_cons_of_pos (by simpa using zero), ih, digitsValue_cons, zero]
      omega
    · rw [List.dropWhile_cons_of_neg (by simpa using zero)]

/-- Without a zero in front, the digits reach the power of ten of the first one. -/
theorem le_digitsValue {digits : List Nat} (filled : digits ≠ []) (solid : digits.head? ≠ some 0) :
    10 ^ (digits.length - 1) ≤ digitsValue digits := by
  obtain ⟨d, rest, rfl⟩ := List.exists_cons_of_ne_nil filled
  have positive : 0 < d := Nat.pos_of_ne_zero fun zero => solid (by rw [zero]; rfl)
  rw [digitsValue_cons, List.length_cons, Nat.add_sub_cancel]
  exact Nat.le_add_right_of_le (Nat.le_mul_of_pos_left _ positive)

end Text

namespace Number

/-! ### What is written -/

/-- Digits as they are written, and the power of ten of the last one. -/
structure Written where
  digits : List Nat
  exponent : Int

/-- The digits behind a point, and what is left. -/
def readFraction (cs : List Char) : List Nat × List Char :=
  match cs with
  | '.' :: more => readDigits more
  | _ => ([], cs)

/-- The digits and the power of ten that are all of a text. -/
def readWritten? (cs : List Char) : Option Written :=
  let (whole, rest) := readDigits cs
  let (fraction, rest) := readFraction rest
  let (exponent, left) := readExponent rest
  if left.isEmpty && !(whole.isEmpty && fraction.isEmpty) then
    some ⟨whole ++ fraction, exponent - fraction.length⟩
  else none

theorem readMagnitude?_eq_map (negative : Bool) (cs : List Char) :
    readMagnitude? negative cs =
      (readWritten? cs).map fun written => ofScientific negative written.digits written.exponent := by
  unfold readWritten?
  simp only
  rw [apply_ite (Option.map _)]
  rfl

theorem readFraction_small (cs : List Char) : ∀ d ∈ (readFraction cs).1, d < 10 := by
  unfold readFraction
  split
  · exact readDigitsAfter_small false _
  · exact nofun

theorem small_of_readWritten? {cs : List Char} {written : Written}
    (read : readWritten? cs = some written) : ∀ d ∈ written.digits, d < 10 := by
  unfold readWritten? at read
  simp only [Option.ite_none_right_eq_some] at read
  obtain ⟨-, same⟩ := read
  cases same
  intro d member
  rcases List.mem_append.mp member with whole | fraction
  · exact readDigitsAfter_small false cs d whole
  · exact readFraction_small _ d fraction

/-! ### Magnitudes -/

/-- The power of ten from which on a magnitude is known by the number of its digits. -/
@[irreducible] def reach : Nat := 400

theorem reach_eq : reach = 400 := by
  unfold reach
  rfl

variable {digits : List Nat} {exponent : Int}

/-- The value of digits whose last one has a power of ten. -/
def scaled (digits : List Nat) (exponent : Int) : ℚ := (digitsValue digits : ℚ) * 10 ^ exponent

theorem scaled_nonneg (digits : List Nat) (exponent : Int) : 0 ≤ scaled digits exponent := by
  unfold scaled
  positivity

theorem scaled_le (small : ∀ d ∈ digits, d < 10) :
    scaled digits exponent ≤ 10 ^ (digits.length + exponent) := by
  have few : (digitsValue digits : ℚ) ≤ 10 ^ digits.length := by
    exact_mod_cast (digitsValue_lt small).le
  rw [scaled, zpow_add₀ (by norm_num), zpow_natCast]
  exact mul_le_mul_of_nonneg_right few (by positivity)

theorem le_scaled (filled : digits ≠ []) (solid : digits.head? ≠ some 0) :
    10 ^ (digits.length + exponent - 1) ≤ scaled digits exponent := by
  have many : ((10 : ℚ) ^ (digits.length - 1)) ≤ digitsValue digits := by
    exact_mod_cast le_digitsValue filled solid
  have positive := List.length_pos_of_ne_nil filled
  have split : (digits.length + exponent - 1 : Int) = (digits.length - 1 : Nat) + exponent := by omega
  rw [split, scaled, zpow_add₀ (by norm_num), zpow_natCast]
  exact mul_le_mul_of_nonneg_right many (by positivity)

theorem scaled_eq_div (digits : List Nat) (exponent : Int) : scaled digits exponent =
    (digitsValue digits * Nat.pow 10 exponent.toNat : Nat) / (Nat.pow 10 (-exponent).toNat : Nat) := by
  simp only [scaled, Nat.pow_eq, Nat.cast_mul, Nat.cast_pow, Nat.cast_ofNat]
  rcases le_total 0 exponent with up | down
  · obtain ⟨n, rfl⟩ := Int.eq_ofNat_of_zero_le up
    simp
  · obtain ⟨n, same⟩ := Int.exists_eq_neg_ofNat down
    subst same
    simp [div_eq_mul_inv]

theorem nearestMagnitude_of_le {q : ℚ} (nonneg : 0 ≤ q) (minute : q ≤ 10 ^ (-reach : Int)) :
    nearestMagnitude q = 0 := by
  have nothing : roundedUnits (1 * unit) (10 ^ reach) = 0 := by decide +kernel
  have ratio : (10 ^ (-reach : Int) : ℚ) = (1 : Nat) / (10 ^ reach : Nat) := by
    rw [zpow_neg, zpow_natCast, Nat.cast_one, one_div, Nat.cast_pow, Nat.cast_ofNat]
  have bound : nearestMagnitude q ≤ nearestMagnitude ((1 : Nat) / (10 ^ reach : Nat)) := by
    apply nearestMagnitude_mono
    rw [abs_of_nonneg nonneg, abs_of_nonneg (ratio_nonneg _ _), ← ratio]
    exact minute
  rw [nearestMagnitude_div 1 (Nat.pow_pos (by decide)), nothing] at bound
  exact Nat.le_zero.mp bound

theorem limit_le_nearestMagnitude {q : ℚ} (huge : 10 ^ (reach : Int) ≤ q) :
    limit ≤ nearestMagnitude q := by
  have beyond : limit ≤ roundedUnits (10 ^ reach * unit) 1 := by decide +kernel
  have ratio : (10 ^ (reach : Int) : ℚ) = (10 ^ reach : Nat) / (1 : Nat) := by
    rw [zpow_natCast, Nat.cast_one, div_one, Nat.cast_pow, Nat.cast_ofNat]
  have bound : nearestMagnitude ((10 ^ reach : Nat) / (1 : Nat)) ≤ nearestMagnitude q := by
    rw [ratio] at huge
    apply nearestMagnitude_mono
    rwa [abs_of_nonneg (ratio_nonneg _ _), abs_of_nonneg ((ratio_nonneg _ _).trans huge)]
  rw [nearestMagnitude_div _ (by decide)] at bound
  exact beyond.trans bound

/-- So far behind the point the digits do not count. -/
theorem nearestMagnitude_of_low (small : ∀ d ∈ digits, d < 10)
    (low : digits.length + exponent ≤ -reach) : nearestMagnitude (scaled digits exponent) = 0 := by
  apply nearestMagnitude_of_le (scaled_nonneg digits exponent)
  calc scaled digits exponent
      ≤ 10 ^ (digits.length + exponent) := scaled_le small
    _ ≤ 10 ^ (-reach : Int) := zpow_le_zpow_right₀ (by norm_num) low

/-- So far before the point a single digit is beyond all finite numbers. -/
theorem limit_le_of_high (filled : digits ≠ []) (solid : digits.head? ≠ some 0)
    (high : reach < digits.length + exponent) : limit ≤ nearestMagnitude (scaled digits exponent) := by
  apply limit_le_nearestMagnitude
  calc (10 : ℚ) ^ (reach : Int)
      ≤ 10 ^ (digits.length + exponent - 1) := zpow_le_zpow_right₀ (by norm_num) (by omega)
    _ ≤ scaled digits exponent := le_scaled filled solid

/-- Digits and an exponent make the number nearest to what they stand for. -/
theorem place_ofScientific (negative : Bool) (small : ∀ d ∈ digits, d < 10) (exponent : Int) :
    (ofScientific negative digits exponent).place =
      nearest (withSign negative (scaled digits exponent)) := by
  rw [nearest, nearestUnits_withSign negative (scaled_nonneg _ _)]
  -- Zeros in front count for nothing, and without them the number of digits tells the magnitude.
  have same : scaled digits exponent = scaled (digits.dropWhile (· == 0)) exponent := by
    rw [scaled, scaled, digitsValue_dropWhile]
  have few : ∀ d ∈ digits.dropWhile (· == 0), d < 10 := fun d member =>
    small d ((List.dropWhile_suffix _).subset member)
  have solid : (digits.dropWhile (· == 0)).head? ≠ some 0 := by
    intro zero
    have kept := List.head?_dropWhile_not (· == 0) digits
    simp [zero] at kept
  unfold ofScientific
  simp only
  rw [same]
  generalize digits.dropWhile (· == 0) = significant at few solid ⊢
  have far := reach_eq
  split
  next trivial =>
    have nothing : nearestMagnitude (scaled significant exponent) = 0 := by
      rcases trivial with empty | low
      · rw [List.isEmpty_iff.mp empty, scaled, digitsValue, List.foldl_nil, Nat.cast_zero, zero_mul]
        exact nearestMagnitude_zero
      · exact nearestMagnitude_of_low few (by omega)
    rw [place_ofRatio_signed negative 0 (by decide), Nat.zero_mul, roundedUnits_zero (by decide),
      nothing]
  next some =>
    rw [List.isEmpty_iff, not_or] at some
    split
    next high => exact (placeAt_signed negative (limit_le_of_high some.1 solid (by omega))).symm
    · have positive : 0 < Nat.pow 10 (-exponent).toNat := Nat.pow_pos (by decide)
      rw [place_ofRatio_signed negative _ positive, scaled_eq_div, nearestMagnitude_div _ positive]

/-! ### Texts -/

/-- The rational number that a text spells; infinity is none. -/
def spelled? (cs : List Char) : Option ℚ :=
  let (negative, rest) := readSign (unpad cs)
  let word := String.ofList (rest.map Char.toLower)
  if word = "inf" ∨ word = "infinity" ∨ word = "nan" then none
  else (readWritten? rest).map fun written => withSign negative (scaled written.digits written.exponent)

/-- A text is read as the number nearest to the one that it spells, and if it spells none, then as no
finite number. -/
theorem readReal?_cases (cs : List Char) :
    (∃ q x, spelled? cs = some q ∧ readReal? cs = some x ∧ x.place = nearest q) ∨
      (spelled? cs = none ∧ ∀ x, readReal? cs = some x → x.rational? = none) := by
  unfold spelled? readReal?
  simp only
  generalize readSign (unpad cs) = parts
  generalize String.ofList (parts.2.map Char.toLower) = word
  obtain ⟨negative, rest⟩ := parts
  by_cases infinite : word = "inf" ∨ word = "infinity"
  · refine .inr ⟨if_pos (by tauto), fun x read => ?_⟩
    rw [if_pos infinite] at read
    cases read
    cases negative <;> rfl
  by_cases nan : word = "nan"
  · refine .inr ⟨if_pos (by tauto), fun x read => ?_⟩
    rw [if_neg infinite, if_pos nan] at read
    cases read
    rfl
  rw [if_neg (by tauto), if_neg infinite, if_neg nan, readMagnitude?_eq_map]
  cases read : readWritten? rest with
  | none => exact .inr ⟨rfl, nofun⟩
  | some written =>
    have place := place_ofScientific negative (small_of_readWritten? read) written.exponent
    exact .inl ⟨_, _, rfl, rfl, place⟩

end Number

/-! ### Values -/

namespace Value

/-- The rational number that a value stands for. -/
def standsFor? : Value → Option ℚ
  | bool b => some (if b then 1 else 0)
  | int n => some n
  | real x => x.rational?
  | text s => Number.spelled? s.toList
  | null | ragged _ | list _ | object _ => none

theorem inRange_of_rational? {x : Binary64} {q : ℚ} (value : x.rational? = some q) :
    inRange x = .ok x := by
  cases x with
  | infinite negative => cases negative <;> cases value
  | nan | finite => rfl

theorem eq_of_inRange {x y : Binary64} (within : inRange y = .ok x) : y = x := by
  cases y with
  | infinite => cases within
  | nan | finite => exact Except.ok.inj within

theorem place_of_realOfInt {n : Int} {x : Binary64} (reads : realOfInt n = .ok x) :
    x.place = nearest n := by
  rw [← eq_of_inRange reads]
  exact place_ofInt n

/-- A value with a finite number stands for a rational one, and the number is the one nearest to it. -/
theorem exists_standsFor? {v : Value} {x : Binary64} (reads : v.toReal = .ok x) {r : ℚ}
    (finite : x.rational? = some r) : ∃ q, v.standsFor? = some q ∧ x.place = nearest q := by
  cases v with
  | bool b =>
    rw [toReal] at reads
    have place := place_of_realOfInt reads
    rw [Int.cast_ite, Int.cast_one, Int.cast_zero] at place
    exact ⟨_, rfl, place⟩
  | int n =>
    rw [toReal] at reads
    exact ⟨_, rfl, place_of_realOfInt reads⟩
  | real y =>
    cases reads
    exact ⟨r, finite, place_eq_nearest finite⟩
  | text s =>
    rw [toReal] at reads
    split at reads
    next y read =>
      cases reads
      rcases Number.readReal?_cases s.toList with ⟨q, y, spelled, read', place⟩ | ⟨-, none⟩
      · rw [read] at read'
        cases read'
        exact ⟨q, spelled, place⟩
      · rw [none x read] at finite
        cases finite
    · cases reads
  | null | ragged | list | object => cases reads

end Value

end DomainScout
