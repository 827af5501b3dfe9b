import DomainScout.Proofs.Number.Rounding
import DomainScout.Query.Page

/-!
# The range of numbers

Integers are out of range from the middle between the greatest number and the next power of two on:
there the tie goes to the even neighbour, which is no finite number any more. Only such an integer
keeps a request from getting a page, and the number of pages of rows that fit into 64 bits is never
out of range.

Main statements: `Value.realOfInt_eq_error`, `Query.Page.clamp_cases`, `Query.Page.total_eq_ok`.
-/
namespace DomainScout

namespace Binary64

/-! ### Finite numbers -/

/-- A sign does not matter to whether a significand and an exponent make a finite number. -/
theorem ofSignificand_cases (negative : Bool) (significand exponent : Nat) :
    (∃ s e canonical, ofSignificand negative significand exponent = .finite negative s e canonical ∧
        ofSignificand false significand exponent = .finite false s e canonical) ∨
      (ofSignificand negative significand exponent = .infinite negative ∧
        ofSignificand false significand exponent = .infinite false) := by
  unfold ofSignificand
  generalize (if significand = Nat.pow 2 53 then (Nat.pow 2 52, exponent + 1)
    else (significand, exponent)) = pair
  by_cases canonical : Canonical pair.1 pair.2
  · exact .inl ⟨pair.1, pair.2, canonical, dif_pos canonical, dif_pos canonical⟩
  · exact .inr ⟨dif_neg canonical, dif_neg canonical⟩

/-- A ratio is finite where it is rounded to less than the limit. -/
theorem ofRatio_cases (negative : Bool) (n : Nat) {d : Nat} (positive : 0 < d) :
    (roundedUnits (n * unit) d < limit ∧
        ∃ s e canonical, ofRatio negative n d = .finite negative s e canonical) ∨
      (limit ≤ roundedUnits (n * unit) d ∧ ofRatio negative n d = .infinite negative) := by
  have place := place_ofRatio positive n
  unfold placeOf at place
  -- The place is known of the positive ratio only; the negative one is finite together with it.
  rcases ofSignificand_cases negative
      (roundQuotient (n * unit) (d * Nat.pow 2 (exponentFor (n * unit) d)))
      (exponentFor (n * unit) d) with ⟨s, e, canonical, eq, plain⟩ | ⟨eq, plain⟩
  · refine .inl ⟨?_, s, e, canonical, eq⟩
    by_contra beyond
    rw [if_neg beyond, ofRatio, plain] at place
    cases place
  · refine .inr ⟨?_, eq⟩
    by_contra within
    rw [if_pos (Nat.not_le.mp within), ofRatio, plain] at place
    cases place

/-- What lies a significand's length below the greatest exponent is rounded to a finite number. -/
theorem roundedUnits_lt_limit {n d : Nat} (positive : 0 < d) (small : n < 2 ^ (greatest + 52)) :
    roundedUnits n d < limit := by
  have reaches : Reaches n d (exponentFor n d) := reaches_exponentFor positive
  have short : roundQuotient n (d * 2 ^ exponentFor n d) ≤ 2 ^ 53 := reaches.significand_le
  have low : exponentFor n d < greatest := by
    -- An exponent above zero is the least that reaches the ratio, so the ratio bounds it.
    rcases reaches.least with least | least
    · rw [least]
      unfold greatest
      decide
    · have within : 2 ^ (exponentFor n d + 52) < 2 ^ (greatest + 52) :=
        calc 2 ^ (exponentFor n d + 52)
            ≤ d * 2 ^ (exponentFor n d + 52) := Nat.le_mul_of_pos_left _ positive
          _ ≤ n := least
          _ < 2 ^ (greatest + 52) := small
      have powers := (Nat.pow_lt_pow_iff_right (by decide : 1 < 2)).mp within
      omega
  calc roundedUnits n d
      ≤ 2 ^ 53 * 2 ^ exponentFor n d := Nat.mul_le_mul_right _ short
    _ < limit := Nat.mul_lt_mul_of_pos_left (Nat.pow_lt_pow_right (by decide) low) (by decide)

end Binary64

namespace Value

open Binary64

/-! ### Integers -/

/-- The least magnitude of an integer that has no finite number next to it. -/
def vast : Nat := 2 ^ 1024 - 2 ^ 970

theorem limit_le_roundedUnits_iff (n : Nat) : limit ≤ roundedUnits (n * unit) 1 ↔ vast ≤ n := by
  -- Rounding keeps order, so that the two integers at the boundary settle all others.
  have top : limit ≤ roundedUnits (vast * unit) 1 := by decide +kernel
  have below : roundedUnits ((vast - 1) * unit) 1 < limit := by decide +kernel
  constructor
  · intro reaches
    by_contra lower
    have le : n * unit ≤ (vast - 1) * unit := Nat.mul_le_mul_right _ (by omega)
    have units := roundedUnits_mono (by decide : 0 < 1) le
    omega
  · intro le
    exact Nat.le_trans top (roundedUnits_mono (by decide) (Nat.mul_le_mul_right _ le))

theorem inRange_finite {negative : Bool} {s e : Nat} (canonical : Canonical s e) :
    inRange (.finite negative s e canonical) = .ok (.finite negative s e canonical) := rfl

theorem inRange_infinite (negative : Bool) : inRange (.infinite negative) = .error .outOfRange := rfl

/-- An integer has a number next to it unless its magnitude is vast. -/
theorem realOfInt_eq_error {n : Int} {fault : NumberFault} :
    realOfInt n = .error fault ↔ fault = .outOfRange ∧ vast ≤ n.natAbs := by
  have range := limit_le_roundedUnits_iff n.natAbs
  unfold realOfInt ofInt
  rcases ofRatio_cases (n < 0) n.natAbs (by decide : 0 < 1) with
    ⟨within, s, e, canonical, eq⟩ | ⟨beyond, eq⟩
  · rw [eq, inRange_finite, ← range]
    exact ⟨nofun, fun ⟨_, beyond⟩ => absurd within (Nat.not_lt.mpr beyond)⟩
  · rw [eq, inRange_infinite]
    exact ⟨fun same => ⟨(Except.error.inj same).symm, range.mp beyond⟩, fun ⟨same, _⟩ => same ▸ rfl⟩

/-- An integer with no finite number next to it. -/
def OutOfRange : Value → Prop
  | int n => vast ≤ n.natAbs
  | _ => False

instance : (v : Value) → Decidable v.OutOfRange
  | int n => inferInstanceAs (Decidable (vast ≤ n.natAbs))
  | null | bool _ | real _ | text _ | ragged _ | list _ | object _ => inferInstanceAs (Decidable False)

example : OutOfRange (.int (-2 ^ 1024 + 2 ^ 970)) ∧ ¬ OutOfRange (.int (2 ^ 1024 - 2 ^ 970 - 1)) := by
  decide +kernel

/-- Texts may spell infinity, so only integers are ever out of range. -/
theorem toReal_eq_outOfRange {v : Value} : v.toReal = .error .outOfRange ↔ v.OutOfRange := by
  cases v with
  | int n => simp [toReal, realOfInt_eq_error, OutOfRange]
  | bool b =>
    have small : ¬ vast ≤ (if b then 1 else 0 : Int).natAbs := by cases b <;> decide +kernel
    simp [toReal, realOfInt_eq_error, OutOfRange, small]
  | text s =>
    simp only [toReal, OutOfRange, iff_false]
    split <;> nofun
  | null | real | ragged | list | object => simp [toReal, OutOfRange]

end Value

namespace Query

open Binary64 Value

/-! ### Pages -/

theorem clampInt_cases (v : Value) (least greatest fallback : Int) :
    (v.OutOfRange ∧ clampInt v least greatest fallback = .error .outOfRange) ∨
      (¬ v.OutOfRange ∧ ∃ n, clampInt v least greatest fallback = .ok n ∧
        (n = fallback ∨ ∃ m, n = min greatest (max least m))) := by
  rw [← toReal_eq_outOfRange]
  unfold clampInt wholeOf?
  cases reading : v.toReal with
  | ok x =>
    cases whole : x.truncate? with
    | none => exact .inr ⟨nofun, fallback, by simp [whole, Except.map], .inl rfl⟩
    | some m => exact .inr ⟨nofun, _, by simp [whole, Except.map], .inr ⟨m, rfl⟩⟩
  | error fault =>
    cases fault with
    | outOfRange => exact .inl ⟨rfl, rfl⟩
    | wrongType | unreadable => exact .inr ⟨nofun, fallback, rfl, .inl rfl⟩

namespace Page

/-- A page is within bounds. -/
structure Bounded (page : Page) : Prop where
  number : 1 ≤ page.number ∧ page.number ≤ maxNumber
  size : 1 ≤ page.size ∧ page.size ≤ maxSize

/-- Whatever is asked for, there is a page for it, unless one of the numbers is out of range. -/
theorem clamp_cases (number size : Value) :
    ((number.OutOfRange ∨ size.OutOfRange) ∧ clamp number size = .error .outOfRange) ∨
      (¬ (number.OutOfRange ∨ size.OutOfRange) ∧
        ∃ page, clamp number size = .ok page ∧ page.Bounded) := by
  unfold clamp
  rcases clampInt_cases number 1 maxNumber 1 with ⟨out, eq⟩ | ⟨fits, n, eq, within⟩
  · exact .inl ⟨.inl out, by rw [eq]; rfl⟩
  · rcases clampInt_cases size 1 maxSize defaultSize with ⟨out, eq'⟩ | ⟨fits', m, eq', within'⟩
    · exact .inl ⟨.inr out, by rw [eq, eq']; rfl⟩
    · refine .inr ⟨not_or.mpr ⟨fits, fits'⟩, ⟨n, m⟩, by rw [eq, eq']; rfl, ?_, ?_⟩
      · rcases within with rfl | ⟨k, rfl⟩ <;> simp only [maxNumber] <;> omega
      · rcases within' with rfl | ⟨k, rfl⟩ <;> simp only [maxSize, defaultSize] <;> omega

/-- A page is within bounds, and no number was out of range. -/
theorem fits_of_clamp {number size : Value} {page : Page} (bounds : clamp number size = .ok page) :
    ¬ (number.OutOfRange ∨ size.OutOfRange) ∧ page.Bounded := by
  rcases clamp_cases number size with ⟨-, out⟩ | ⟨fits, page', bounds', bounded⟩
  · cases out.symm.trans bounds
  · cases bounds'.symm.trans bounds
    exact ⟨fits, bounded⟩

theorem roundUp_finite {negative : Bool} {s e : Nat} (canonical : Canonical s e) :
    ∃ pages, roundUp (.finite negative s e canonical) = .ok pages := by
  unfold roundUp ceiling?
  exact ⟨_, rfl⟩

/-- Rows whose number fits into 64 bits make a number of pages. -/
theorem total_eq_ok {page : Page} (bounded : page.Bounded) {rows : Int} (fits : rows.natAbs < 2 ^ 64) :
    ∃ pages, page.total rows = .ok pages := by
  have positive : 0 < page.size.natAbs := by
    have least := bounded.size.1
    omega
  -- The quotient is at most the number of rows, far below what is too great to be rounded.
  have few : 2 ^ 64 * unit ≤ 2 ^ (greatest + 52) := by decide +kernel
  have small : rows.natAbs * unit < 2 ^ (greatest + 52) :=
    calc rows.natAbs * unit
        < 2 ^ 64 * unit := Nat.mul_lt_mul_of_pos_right fits unit_pos
      _ ≤ 2 ^ (greatest + 52) := few
  rcases ofRatio_cases (rows < 0) rows.natAbs positive with
    ⟨-, s, e, canonical, eq⟩ | ⟨beyond, -⟩
  · rw [total, eq]
    exact roundUp_finite canonical
  · exact absurd (roundedUnits_lt_limit positive small) (Nat.not_lt.mpr beyond)

end Page

end Query

end DomainScout
