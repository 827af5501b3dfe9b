import DomainScout.Value.Measure
import Mathlib

/-!
# Rounding keeps order

A greater ratio never rounds to a smaller number. So the time since a moment never shrinks while a
clock moves on, and what is over stays over.

Main statement: `Measure.reaches_since_mono`.
-/
namespace DomainScout

namespace Binary64

/-! ### Quotients -/

theorem roundQuotient_eq (n d : Nat) :
    roundQuotient n d = n / d ∧ (2 * (n % d) < d ∨ 2 * (n % d) = d ∧ n / d % 2 = 0) ∨
      roundQuotient n d = n / d + 1 ∧ ¬ (2 * (n % d) < d ∨ 2 * (n % d) = d ∧ n / d % 2 = 0) := by
  unfold roundQuotient
  by_cases down : 2 * (n % d) < d ∨ 2 * (n % d) = d ∧ n / d % 2 = 0
  · exact .inl ⟨if_pos down, down⟩
  · exact .inr ⟨if_neg down, down⟩

theorem roundQuotient_mono {n m : Nat} (d : Nat) (le : n ≤ m) :
    roundQuotient n d ≤ roundQuotient m d := by
  have floors : n / d ≤ m / d := Nat.div_le_div_right le
  have one := Nat.div_add_mod n d
  have two := Nat.div_add_mod m d
  by_cases same : n / d = m / d
  · -- In one interval it is the rest that decides.
    have rests : n % d ≤ m % d := by
      rw [same] at one
      omega
    rcases roundQuotient_eq n d with ⟨eq, down⟩ | ⟨eq, up⟩ <;>
      rcases roundQuotient_eq m d with ⟨eq', down'⟩ | ⟨eq', up'⟩ <;> omega
  · rcases roundQuotient_eq n d with ⟨eq, -⟩ | ⟨eq, -⟩ <;>
      rcases roundQuotient_eq m d with ⟨eq', -⟩ | ⟨eq', -⟩ <;> omega

theorem roundQuotient_le {n d k : Nat} (lt : n < d * k) : roundQuotient n d ≤ k := by
  have floor : n / d < k := Nat.div_lt_of_lt_mul lt
  rcases roundQuotient_eq n d with ⟨eq, -⟩ | ⟨eq, -⟩ <;> omega

theorem le_roundQuotient {n d k : Nat} (positive : 0 < d) (le : d * k ≤ n) :
    k ≤ roundQuotient n d := by
  have floor : k ≤ n / d := (Nat.le_div_iff_mul_le positive).mpr (Nat.mul_comm d k ▸ le)
  rcases roundQuotient_eq n d with ⟨eq, -⟩ | ⟨eq, -⟩ <;> omega

/-! ### Exponents -/

/-- The exponent is the least one whose significands reach as far as the ratio. -/
structure Reaches (n d exponent : Nat) : Prop where
  above : n < d * 2 ^ (exponent + 53)
  least : exponent = 0 ∨ d * 2 ^ (exponent + 52) ≤ n

theorem reaches_exponentFor {n d : Nat} (positive : 0 < d) : Reaches n d (exponentFor n d) := by
  have below : n < 2 ^ (n.log2 + 1) := Nat.lt_log2_self
  have dbelow : d < 2 ^ (d.log2 + 1) := Nat.lt_log2_self
  have dabove : 2 ^ d.log2 ≤ d := Nat.log2_self_le (Nat.pos_iff_ne_zero.mp positive)
  unfold exponentFor
  simp only [Nat.pow_eq]
  by_cases enough : n < d * 2 ^ (n.log2 - d.log2 - 53 + 53)
  · rw [if_pos enough]
    refine ⟨enough, ?_⟩
    by_cases least : n.log2 - d.log2 - 53 = 0
    · exact .inl least
    · right
      -- The guess is at most one too small, so one less would not reach far enough.
      have nonzero : n ≠ 0 := by
        rintro rfl
        exact least (by simp)
      have above : 2 ^ n.log2 ≤ n := Nat.log2_self_le nonzero
      have split : 2 ^ (d.log2 + 1) * 2 ^ (n.log2 - d.log2 - 53 + 52) = 2 ^ n.log2 := by
        rw [← Nat.pow_add]
        congr 1
        omega
      have scaled : d * 2 ^ (n.log2 - d.log2 - 53 + 52) ≤
          2 ^ (d.log2 + 1) * 2 ^ (n.log2 - d.log2 - 53 + 52) :=
        Nat.mul_le_mul_right _ (Nat.le_of_lt dbelow)
      omega
  · rw [if_neg enough]
    refine ⟨?_, .inr (Nat.le_of_not_lt enough)⟩
    have far : 2 ^ (n.log2 + 1) ≤ 2 ^ d.log2 * 2 ^ (n.log2 - d.log2 - 53 + 1 + 53) := by
      rw [← Nat.pow_add]
      exact Nat.pow_le_pow_right (by decide) (by omega)
    have scaled : 2 ^ d.log2 * 2 ^ (n.log2 - d.log2 - 53 + 1 + 53) ≤
        d * 2 ^ (n.log2 - d.log2 - 53 + 1 + 53) := Nat.mul_le_mul_right _ dabove
    omega

theorem Reaches.mono {n m d e f : Nat} (first : Reaches n d e) (second : Reaches m d f)
    (le : n ≤ m) : e ≤ f := by
  rcases first.least with rfl | least
  · exact Nat.zero_le f
  · have within : d * 2 ^ (e + 52) < d * 2 ^ (f + 53) :=
      Nat.lt_of_le_of_lt (Nat.le_trans least le) second.above
    have powers := (Nat.pow_lt_pow_iff_right (by decide : 1 < 2)).mp (Nat.lt_of_mul_lt_mul_left within)
    omega

/-! ### Ratios -/

/-- The units of a ratio to whose exponent it is rounded. -/
def roundedUnits (n d : Nat) : Nat :=
  roundQuotient n (d * 2 ^ exponentFor n d) * 2 ^ exponentFor n d

theorem Reaches.significand_le {n d e : Nat} (reaches : Reaches n d e) :
    roundQuotient n (d * 2 ^ e) ≤ 2 ^ 53 := by
  apply roundQuotient_le
  rw [Nat.mul_assoc, ← Nat.pow_add]
  exact reaches.above

theorem Reaches.le_significand {n d e : Nat} (reaches : Reaches n d e) (positive : 0 < d) :
    e = 0 ∨ 2 ^ 52 ≤ roundQuotient n (d * 2 ^ e) := by
  refine reaches.least.imp_right fun least => ?_
  apply le_roundQuotient (Nat.mul_pos positive (Nat.two_pow_pos e))
  rw [Nat.mul_assoc, ← Nat.pow_add]
  exact least

/-- A significand that is carried stands for the same number. -/
theorem carry (e : Nat) : 2 ^ 53 * 2 ^ e = 2 ^ 52 * 2 ^ (e + 1) := by
  rw [Nat.pow_succ]
  omega

theorem roundedUnits_mono {n m d : Nat} (positive : 0 < d) (le : n ≤ m) :
    roundedUnits n d ≤ roundedUnits m d := by
  have first : Reaches n d (exponentFor n d) := reaches_exponentFor positive
  have second : Reaches m d (exponentFor m d) := reaches_exponentFor positive
  unfold roundedUnits
  generalize exponentFor n d = e at first ⊢
  generalize exponentFor m d = f at second ⊢
  have exponents : e ≤ f := first.mono second le
  by_cases same : e = f
  · rw [same]
    exact Nat.mul_le_mul_right _ (roundQuotient_mono _ le)
  · -- The greater exponent starts where the smaller one ends.
    have higher : e + 1 ≤ f := by omega
    have significand : 2 ^ 52 ≤ roundQuotient m (d * 2 ^ f) :=
      (second.le_significand positive).resolve_left (by omega)
    calc roundQuotient n (d * 2 ^ e) * 2 ^ e
        ≤ 2 ^ 53 * 2 ^ e := Nat.mul_le_mul_right _ first.significand_le
      _ = 2 ^ 52 * 2 ^ (e + 1) := carry e
      _ ≤ 2 ^ 52 * 2 ^ f := Nat.mul_le_mul_left _ (Nat.pow_le_pow_right (by decide) higher)
      _ ≤ roundQuotient m (d * 2 ^ f) * 2 ^ f := Nat.mul_le_mul_right _ significand

/-- The greatest exponent. -/
@[irreducible] def greatest : Nat := 2045

/-- The magnitude from which on there are no finite numbers. -/
def limit : Nat := 2 ^ 53 * 2 ^ greatest

theorem lt_limit {significand e : Nat} (short : significand < 2 ^ 53) (le : e ≤ greatest) :
    significand * 2 ^ e < limit :=
  calc significand * 2 ^ e
      < 2 ^ 53 * 2 ^ e := Nat.mul_lt_mul_of_pos_right short (Nat.two_pow_pos e)
    _ ≤ limit := Nat.mul_le_mul_left _ (Nat.pow_le_pow_right (by decide) le)

theorem limit_le {significand e : Nat} (full : 2 ^ 52 ≤ significand) (lt : greatest < e) :
    limit ≤ significand * 2 ^ e :=
  calc limit
      = 2 ^ 52 * 2 ^ (greatest + 1) := carry greatest
    _ ≤ 2 ^ 52 * 2 ^ e := Nat.mul_le_mul_left _ (Nat.pow_le_pow_right (by decide) lt)
    _ ≤ significand * 2 ^ e := Nat.mul_le_mul_right _ full

/-- Where a magnitude lies: on the line up to the limit, and beyond it from there on. -/
def placeOf (magnitude : Nat) : Place := if magnitude < limit then .at magnitude else .above

theorem place_finite {significand exponent : Nat} (canonical : Canonical significand exponent) :
    (finite false significand exponent canonical).place = .at (significand * 2 ^ exponent : Nat) := rfl

theorem place_ofSignificand {significand exponent : Nat} (le : significand ≤ 2 ^ 53)
    (least : exponent = 0 ∨ 2 ^ 52 ≤ significand) :
    (ofSignificand false significand exponent).place = placeOf (significand * 2 ^ exponent) := by
  have top : greatest = 2045 := by
    unfold greatest
    rfl
  -- A canonical pair is below the limit; of the others, only the exponent can be too great.
  have fits : ∀ {s e : Nat}, s < 2 ^ 53 → (e = 0 ∨ 2 ^ 52 ≤ s) →
      (if canonical : Canonical s e then finite false s e canonical else infinite false).place =
        placeOf (s * 2 ^ e) := by
    intro s e short least
    unfold placeOf
    by_cases canonical : Canonical s e
    · rw [dif_pos canonical, if_pos (lt_limit short (top ▸ canonical.2.2)), place_finite]
    · have great : ¬ e ≤ greatest := fun small => canonical ⟨short, least, top ▸ small⟩
      have nonzero : e ≠ 0 := by omega
      have beyond : limit ≤ s * 2 ^ e := limit_le (least.resolve_left nonzero) (by omega)
      rw [dif_neg canonical, if_neg (Nat.not_lt.mpr beyond)]
      rfl
  unfold ofSignificand
  by_cases full : significand = 2 ^ 53
  · simp only [Nat.pow_eq, full, if_true]
    rw [carry]
    exact fits (by decide) (.inr (Nat.le_refl _))
  · simp only [Nat.pow_eq, full, if_false]
    exact fits (by omega) least

theorem place_ofRatio {d : Nat} (positive : 0 < d) (n : Nat) :
    (ofRatio false n d).place = placeOf (roundedUnits (n * unit) d) := by
  unfold ofRatio roundedUnits
  simp only
  generalize n * unit = scaled
  have reaches : Reaches scaled d (exponentFor scaled d) := reaches_exponentFor positive
  exact place_ofSignificand reaches.significand_le (reaches.le_significand positive)

end Binary64

namespace Place

theorem atMost_nowhere (place : Place) : place.atMost .nowhere = false := by
  cases place <;> rfl

theorem atMost_trans {a b c : Place} (first : a.atMost b = true) (second : b.atMost c = true) :
    a.atMost c = true := by
  cases a <;> cases b <;> cases c <;> simp_all [atMost]
  omega

end Place

namespace Binary64

theorem placeOf_mono {n m : Nat} (le : n ≤ m) : (placeOf n).atMost (placeOf m) = true := by
  unfold placeOf
  by_cases within : m < limit
  · rw [if_pos within, if_pos (Nat.lt_of_le_of_lt le within)]
    exact decide_eq_true (Int.ofNat_le.mpr le)
  · rw [if_neg within]
    split <;> rfl

/-- A greater ratio rounds to a greater number, or to the same. -/
theorem place_ofRatio_mono {n m d : Nat} (positive : 0 < d) (le : n ≤ m) :
    (ofRatio false n d).place.atMost (ofRatio false m d).place = true := by
  rw [place_ofRatio positive, place_ofRatio positive]
  exact placeOf_mono (roundedUnits_mono positive (Nat.mul_le_mul_right _ le))

end Binary64

/-! ### Differences and measures -/

namespace Binary64

theorem unit_pos : 0 < unit := by decide +kernel

theorem placeOf_ne_nowhere (n : Nat) : placeOf n ≠ .nowhere := by
  unfold placeOf
  split <;> simp

/-- Beyond all finite numbers nothing is told apart. -/
theorem minus_of_above {x z : Binary64} (minuend : x.place = .above) (subtrahend : z.place = .above) :
    x.minus z = nan := by
  cases x with
  | nan | finite => cases minuend
  | infinite negative =>
    cases z with
    | nan | finite => cases subtrahend
    | infinite negative' =>
      cases negative with
      | true => cases minuend
      | false =>
        cases negative' with
        | true => cases subtrahend
        | false => rfl

/-- The difference of finite numbers is exact but for one rounding. -/
theorem place_minus {x z : Binary64} {m n : Int} (minuend : x.place = .at m)
    (subtrahend : z.place = .at n) (le : n ≤ m) :
    (x.minus z).place = (ofRatio false (m - n).toNat unit).place := by
  cases x with
  | nan => cases minuend
  | infinite negative => cases negative <;> cases minuend
  | finite =>
    cases z with
    | nan => cases subtrahend
    | infinite negative => cases negative <;> cases subtrahend
    | finite =>
      have units := Place.at.inj minuend
      have units' := Place.at.inj subtrahend
      simp only [minus, units, units']
      have positive : ¬ m - n < 0 := by omega
      have magnitude : (m - n).natAbs = (m - n).toNat := by omega
      rw [decide_eq_false positive, magnitude]

theorem place_minus_of_above {x z : Binary64} {n : Int} (minuend : x.place = .above)
    (subtrahend : z.place = .at n) : (x.minus z).place = .above := by
  cases x with
  | nan | finite => cases minuend
  | infinite negative =>
    cases z with
    | nan => cases subtrahend
    | infinite negative => cases negative <;> cases subtrahend
    | finite =>
      cases negative with
      | true => cases minuend
      | false => rfl

/-- The difference from a finite number grows with the number it is taken from. -/
theorem minus_mono {x y z : Binary64} {n : Int} (within : z.place = .at n)
    (first : z.place.atMost x.place = true) (second : x.place.atMost y.place = true) :
    (x.minus z).place.atMost (y.minus z).place = true := by
  rw [within] at first
  -- Both numbers are at or behind a finite place, so each is at a place of its own or above all.
  cases minuend : x.place with
  | nowhere | below =>
    rw [minuend] at first
    cases first
  | above =>
    rw [minuend] at second
    cases later : y.place with
    | nowhere | below | «at» =>
      rw [later] at second
      cases second
    | above =>
      rw [place_minus_of_above minuend within, place_minus_of_above later within]
      rfl
  | «at» m =>
    rw [minuend] at first second
    have least : n ≤ m := of_decide_eq_true first
    rw [place_minus minuend within least]
    cases later : y.place with
    | nowhere | below =>
      rw [later] at second
      cases second
    | above =>
      rw [place_minus_of_above later within, place_ofRatio unit_pos]
      unfold placeOf
      split <;> rfl
    | «at» k =>
      rw [later] at second
      have order : m ≤ k := of_decide_eq_true second
      rw [place_minus later within (Int.le_trans least order)]
      exact place_ofRatio_mono unit_pos (by omega)

/-- Below all finite numbers nothing is told apart either, and everything else is far above. -/
theorem place_minus_of_below {x z : Binary64} (start : z.place = .below)
    (first : z.place.atMost x.place = true) :
    (x.minus z).place = if x.place matches .below then .nowhere else .above := by
  cases z with
  | nan | finite => cases start
  | infinite negative =>
    cases negative with
    | false => cases start
    | true =>
      cases x with
      | nan => cases first
      | finite => rfl
      | infinite negative => cases negative <;> rfl

/-- What a number has reached since a start, every later number has reached. -/
theorem reaches_minus_mono {x y z : Binary64} {goal : Place}
    (first : z.place.atMost x.place = true) (second : x.place.atMost y.place = true)
    (reached : goal.atMost (x.minus z).place = true) : goal.atMost (y.minus z).place = true := by
  cases start : z.place with
  | nowhere =>
    rw [start] at first
    cases first
  | «at» n => exact Place.atMost_trans reached (minus_mono start first second)
  | above =>
    -- A clock that started above all numbers stays there, and then no time is told apart.
    have minuend : x.place = .above := by
      rw [start] at first
      cases later : x.place with
      | nowhere | below | «at» =>
        rw [later] at first
        cases first
      | above => rfl
    rw [minus_of_above minuend start] at reached
    cases reached.symm.trans (Place.atMost_nowhere goal)
  | below =>
    -- Once the clock has left the bottom, all that lies since then is above every number.
    rw [place_minus_of_below start first] at reached
    rw [place_minus_of_below start (Place.atMost_trans first second)]
    cases minuend : x.place with
    | below =>
      rw [minuend] at reached
      cases reached.symm.trans (Place.atMost_nowhere goal)
    | nowhere =>
      rw [minuend] at second
      cases second
    | above | «at» =>
      rw [minuend] at reached second
      cases later : y.place with
      | nowhere | below =>
        rw [later] at second
        cases second
      | above | «at» => exact reached

end Binary64

namespace Measure

/-- Readings of one clock, which counts in whole numbers or in real ones. -/
def Alike (moments : List Measure) : Prop :=
  (∀ moment ∈ moments, ∃ n, moment = .whole n) ∨ ∀ moment ∈ moments, ∃ x, moment = .real x

theorem Alike.of_subset {moments others : List Measure} (alike : Alike moments)
    (subset : others ⊆ moments) : Alike others :=
  alike.imp (fun wholes moment member => wholes moment (subset member))
    fun reals moment member => reals moment (subset member)

theorem since_whole (later earlier : Int) :
    (whole later).since (.whole earlier) = .whole (later - earlier) := rfl

theorem since_real (later earlier : Binary64) :
    (real later).since (.real earlier) = .real (later.minus earlier) := rfl

theorem reaches_whole (m n : Int) : (whole m).reaches (.whole n) = decide (n ≤ m) := by
  have scaled : n * Binary64.unit ≤ m * Binary64.unit ↔ n ≤ m :=
    Int.mul_le_mul_right (Int.natCast_pos.mpr Binary64.unit_pos)
  exact decide_eq_decide.mpr scaled

/-- What the time since a moment reaches, it reaches at any later moment. -/
theorem reaches_since_of_alike {start x y length : Measure} (alike : Alike [start, x, y])
    (first : x.reaches start = true) (second : y.reaches x = true)
    (reached : (x.since start).reaches length = true) : (y.since start).reaches length = true := by
  rcases alike with wholes | reals
  · obtain ⟨s, rfl⟩ := wholes start (by simp)
    obtain ⟨m, rfl⟩ := wholes x (by simp)
    obtain ⟨n, rfl⟩ := wholes y (by simp)
    rw [reaches_whole, decide_eq_true_iff] at second
    rw [since_whole] at reached ⊢
    have further : (whole (m - s)).place.atMost (whole (n - s)).place = true := by
      have order := reaches_whole (n - s) (m - s)
      rw [decide_eq_true (Int.sub_le_sub_right second s)] at order
      exact order
    exact Place.atMost_trans reached further
  · obtain ⟨s, rfl⟩ := reals start (by simp)
    obtain ⟨m, rfl⟩ := reals x (by simp)
    obtain ⟨n, rfl⟩ := reals y (by simp)
    rw [since_real] at reached ⊢
    exact Binary64.reaches_minus_mono first second reached

theorem since?_eq_ok_of_alike {start x : Measure} (alike : Alike [start, x]) :
    x.since? start = .ok (x.since start) := by
  rcases alike with wholes | reals
  · obtain ⟨s, rfl⟩ := wholes start (by simp)
    obtain ⟨m, rfl⟩ := wholes x (by simp)
    rfl
  · obtain ⟨s, rfl⟩ := reals start (by simp)
    obtain ⟨m, rfl⟩ := reals x (by simp)
    rfl

theorem reaches_ofMilliseconds {a b : Nat} (le : a ≤ b) :
    (ofMilliseconds b).reaches (ofMilliseconds a) = true := by
  have ordered := Binary64.place_ofRatio_mono (by decide : 0 < 1000) le
  unfold reaches ofMilliseconds place
  exact ordered

theorem reaches_since_mono {start a b : Nat} {length : Measure} (first : start ≤ a) (second : a ≤ b)
    (reached : ((ofMilliseconds a).since (ofMilliseconds start)).reaches length = true) :
    ((ofMilliseconds b).since (ofMilliseconds start)).reaches length = true := by
  have alike : Alike [ofMilliseconds start, ofMilliseconds a, ofMilliseconds b] := by
    simp [Alike, ofMilliseconds]
  exact reaches_since_of_alike alike (reaches_ofMilliseconds first) (reaches_ofMilliseconds second)
    reached

/-- A measure is smaller than another one. -/
def Less (x y : Measure) : Prop := y.reaches x = true ∧ x.reaches y = false

/-- A measure is a number, maybe an infinite one. -/
def IsNumber (x : Measure) : Prop := x.place ≠ .nowhere

def IsFinite (x : Measure) : Prop := ∃ units, x.place = .at units

/-- Of two numbers, one reaches the other. -/
theorem reaches_eq_false_iff {x y : Measure} (number : x.IsNumber) (number' : y.IsNumber) :
    x.reaches y = false ↔ x.Less y := by
  unfold Less reaches
  cases first : x.place with
  | nowhere => exact absurd first number
  | below | above => cases second : y.place <;> simp_all [IsNumber, Place.atMost]
  | «at» m =>
    cases second : y.place with
    | nowhere => exact absurd second number'
    | below | above => simp [Place.atMost]
    | «at» n =>
      simp only [Place.atMost, decide_eq_false_iff_not, decide_eq_true_iff]
      omega

/-- Between finite readings of one clock there is a number. -/
theorem isNumber_since {start x : Measure} (alike : Alike [start, x]) (finite : start.IsFinite)
    (finite' : x.IsFinite) (order : x.reaches start = true) : (x.since start).IsNumber := by
  obtain ⟨n, starts⟩ := finite
  obtain ⟨m, ends⟩ := finite'
  unfold IsNumber
  rcases alike with wholes | reals
  · obtain ⟨s, rfl⟩ := wholes start (by simp)
    obtain ⟨k, rfl⟩ := wholes x (by simp)
    rw [since_whole]
    intro nowhere
    cases nowhere
  · obtain ⟨s, rfl⟩ := reals start (by simp)
    obtain ⟨k, rfl⟩ := reals x (by simp)
    unfold reaches at order
    rw [starts, ends] at order
    have least : n ≤ m := of_decide_eq_true order
    have rounded := Binary64.place_minus ends starts least
    rw [Binary64.place_ofRatio Binary64.unit_pos] at rounded
    rw [since_real]
    intro nowhere
    exact Binary64.placeOf_ne_nowhere _ (rounded.symm.trans nowhere)

end Measure

end DomainScout
