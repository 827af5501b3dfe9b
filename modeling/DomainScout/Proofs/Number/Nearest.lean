import DomainScout.Proofs.Number.Ceiling

/-!
# The nearest number

Rounding depends on a ratio only, not on how it is written, so there is one place on the line of
numbers for each rational number. The places are in the order of the rational numbers, and a number
of the format has its own place. The integer part of a number is its value rounded toward zero.

Main statements: `place_ofRatio_eq_nearest`, `nearest_mono`, `place_eq_nearest`,
`truncate?_eq_map`, `rational?_ofInt`.
-/
namespace DomainScout.Binary64

/-! ### Ratios -/

theorem roundQuotient_scale {k : Nat} (positive : 0 < k) (n d : Nat) :
    roundQuotient (k * n) (k * d) = roundQuotient n d := by
  have floor : k * n / (k * d) = n / d := Nat.mul_div_mul_left n d positive
  have rest : k * n % (k * d) = k * (n % d) := Nat.mul_mod_mul_left k n d
  have less : 2 * (k * (n % d)) < k * d ↔ 2 * (n % d) < d := by
    rw [Nat.mul_left_comm]
    exact Nat.mul_lt_mul_left positive
  have same : 2 * (k * (n % d)) = k * d ↔ 2 * (n % d) = d := by
    rw [Nat.mul_left_comm]
    exact Nat.mul_right_inj (Nat.pos_iff_ne_zero.mp positive)
  simp only [roundQuotient, floor, rest, less, same]

theorem Reaches.scale {n d e k : Nat} (positive : 0 < k) (reaches : Reaches n d e) :
    Reaches (k * n) (k * d) e where
  above := by
    rw [Nat.mul_assoc]
    exact Nat.mul_lt_mul_of_pos_left reaches.above positive
  least := by
    refine reaches.least.imp_right fun least => ?_
    rw [Nat.mul_assoc]
    exact Nat.mul_le_mul_left k least

theorem Reaches.unique {n d e f : Nat} (first : Reaches n d e) (second : Reaches n d f) : e = f :=
  Nat.le_antisymm (first.mono second (Nat.le_refl n)) (second.mono first (Nat.le_refl n))

/-- A ratio of scaled numbers is rounded alike. -/
theorem roundedUnits_scale {k d : Nat} (positive : 0 < k) (filled : 0 < d) (n : Nat) :
    roundedUnits (k * n) (k * d) = roundedUnits n d := by
  have plain : Reaches n d (exponentFor n d) := reaches_exponentFor filled
  have scaled : Reaches (k * n) (k * d) (exponentFor (k * n) (k * d)) :=
    reaches_exponentFor (Nat.mul_pos positive filled)
  rw [roundedUnits, roundedUnits, scaled.unique (plain.scale positive), Nat.mul_assoc,
    roundQuotient_scale positive]

/-- A greater ratio is rounded to a greater number of units, or to the same. -/
theorem roundedUnits_le_of_le {n d m e : Nat} (filled : 0 < d) (filled' : 0 < e)
    (le : n * e ≤ m * d) : roundedUnits n d ≤ roundedUnits m e :=
  calc roundedUnits n d
      = roundedUnits (e * n) (e * d) := (roundedUnits_scale filled' filled n).symm
    _ ≤ roundedUnits (d * m) (e * d) := by
        refine roundedUnits_mono (Nat.mul_pos filled' filled) ?_
        rwa [Nat.mul_comm e, Nat.mul_comm d]
    _ = roundedUnits (d * m) (d * e) := by rw [Nat.mul_comm e]
    _ = roundedUnits m e := roundedUnits_scale filled filled' m

theorem roundedUnits_zero {d : Nat} (positive : 0 < d) : roundedUnits 0 d = 0 := by
  have whole := roundedUnits_whole (k := 0) positive (Nat.zero_le _)
  simpa using whole

/-! ### Places -/

/-- The place of a number of units: on the line up to the limit, and beyond it from there on. -/
def placeAt (units : Int) : Place :=
  if units.natAbs < limit then .at units else if units < 0 then .below else .above

theorem limit_pos : 0 < limit := Nat.mul_pos (by decide) (Nat.two_pow_pos greatest)

theorem placeAt_mono {u v : Int} (le : u ≤ v) : (placeAt u).atMost (placeAt v) = true := by
  have positive := limit_pos
  unfold placeAt
  split_ifs <;> first | rfl | exact decide_eq_true le | omega

theorem signed_false (n : Nat) : signed false n = n := rfl

theorem signed_true (n : Nat) : signed true n = -(n : Int) := rfl

theorem natAbs_signed (negative : Bool) (n : Nat) : (signed negative n).natAbs = n := by
  cases negative <;> simp [signed]

theorem placeAt_signed (negative : Bool) {n : Nat} (beyond : limit ≤ n) :
    placeAt (signed negative n) = (infinite negative).place := by
  have positive := limit_pos
  rw [placeAt, natAbs_signed, if_neg (Nat.not_lt.mpr beyond)]
  cases negative with
  | false =>
    rw [signed_false]
    exact if_neg (by omega)
  | true =>
    rw [signed_true]
    exact if_pos (by omega)

/-- A ratio of either sign lies at the units that it is rounded to. -/
theorem place_ofRatio_signed (negative : Bool) (n : Nat) {d : Nat} (positive : 0 < d) :
    (ofRatio negative n d).place = placeAt (signed negative (roundedUnits (n * unit) d)) := by
  have plain := place_ofRatio positive n
  -- The place is known of the positive ratio; the sign is all that the other one differs in.
  rcases ofSignificand_cases negative
      (roundQuotient (n * unit) (d * Nat.pow 2 (exponentFor (n * unit) d)))
      (exponentFor (n * unit) d) with ⟨s, e, canonical, eq, eq'⟩ | ⟨eq, eq'⟩
  · rw [ofRatio, eq', place_finite, placeOf] at plain
    rw [ofRatio, eq]
    split at plain
    next within =>
      have units : s * 2 ^ e = roundedUnits (n * unit) d := Int.ofNat.inj (Place.at.inj plain)
      rw [placeAt, natAbs_signed, if_pos within, ← units]
      rfl
    · cases plain
  · rw [ofRatio, eq', placeOf] at plain
    rw [ofRatio, eq]
    split at plain
    · cases plain
    next beyond => exact (placeAt_signed negative (Nat.le_of_not_lt beyond)).symm

/-! ### Rational numbers -/

/-- The units that the magnitude of a rational number is rounded to. -/
def nearestMagnitude (q : ℚ) : Nat := roundedUnits (q.num.natAbs * unit) q.den

/-- The units that a rational number is rounded to. -/
def nearestUnits (q : ℚ) : Int := signed (q < 0) (nearestMagnitude q)

/-- The place of the number nearest to a rational one. -/
def nearest (q : ℚ) : Place := placeAt (nearestUnits q)

theorem ratio_nonneg (n d : Nat) : 0 ≤ (n : ℚ) / d := div_nonneg n.cast_nonneg d.cast_nonneg

theorem abs_eq_div (q : ℚ) : |q| = (q.num.natAbs : ℚ) / (q.den : ℚ) := by
  rw [Rat.abs_def, Rat.divInt_eq_div]
  rfl

theorem roundedUnits_le_of_div_le {n d m e : Nat} (filled : 0 < d) (filled' : 0 < e)
    (le : (n : ℚ) / d ≤ (m : ℚ) / e) : roundedUnits (n * unit) d ≤ roundedUnits (m * unit) e := by
  apply roundedUnits_le_of_le filled filled'
  rw [div_le_div_iff₀ (by exact_mod_cast filled) (by exact_mod_cast filled')] at le
  have cross : n * e ≤ m * d := by exact_mod_cast le
  calc n * unit * e
      = n * e * unit := by ring
    _ ≤ m * d * unit := Nat.mul_le_mul_right unit cross
    _ = m * unit * d := by ring

theorem nearestMagnitude_mono {q r : ℚ} (le : |q| ≤ |r|) : nearestMagnitude q ≤ nearestMagnitude r := by
  rw [abs_eq_div, abs_eq_div] at le
  exact roundedUnits_le_of_div_le q.den_pos r.den_pos le

theorem nearestMagnitude_of_div {q : ℚ} {n d : Nat} (positive : 0 < d) (same : |q| = (n : ℚ) / d) :
    nearestMagnitude q = roundedUnits (n * unit) d := by
  rw [abs_eq_div] at same
  exact Nat.le_antisymm (roundedUnits_le_of_div_le q.den_pos positive same.le)
    (roundedUnits_le_of_div_le positive q.den_pos same.ge)

theorem nearestUnits_of_nonneg {q : ℚ} (nonneg : 0 ≤ q) : nearestUnits q = nearestMagnitude q := by
  rw [nearestUnits, decide_eq_false (not_lt.mpr nonneg), signed_false]

theorem nearestUnits_of_neg {q : ℚ} (negative : q < 0) : nearestUnits q = -nearestMagnitude q := by
  rw [nearestUnits, decide_eq_true negative, signed_true]

/-- A greater number is rounded to a greater number of units, or to the same. -/
theorem nearestUnits_mono {q r : ℚ} (le : q ≤ r) : nearestUnits q ≤ nearestUnits r := by
  -- Rounding keeps the order of the magnitudes, and below zero that is the other way round.
  rcases lt_or_ge q 0 with negative | nonneg
  · rw [nearestUnits_of_neg negative]
    rcases lt_or_ge r 0 with negative' | nonneg'
    · have magnitudes : nearestMagnitude r ≤ nearestMagnitude q := by
        apply nearestMagnitude_mono
        rw [abs_of_neg negative, abs_of_neg negative']
        exact neg_le_neg le
      rw [nearestUnits_of_neg negative']
      omega
    · rw [nearestUnits_of_nonneg nonneg']
      omega
  · have nonneg' : 0 ≤ r := nonneg.trans le
    have magnitudes : nearestMagnitude q ≤ nearestMagnitude r := by
      apply nearestMagnitude_mono
      rwa [abs_of_nonneg nonneg, abs_of_nonneg nonneg']
    rw [nearestUnits_of_nonneg nonneg, nearestUnits_of_nonneg nonneg']
    omega

theorem nearest_mono {q r : ℚ} (le : q ≤ r) : (nearest q).atMost (nearest r) = true :=
  placeAt_mono (nearestUnits_mono le)

/-- A magnitude with a sign. -/
def withSign (negative : Bool) (q : ℚ) : ℚ := if negative then -q else q

theorem signed_div (negative : Bool) (n d : Nat) :
    (signed negative n : ℚ) / d = withSign negative ((n : ℚ) / d) := by
  cases negative with
  | false => rw [signed_false, Int.cast_natCast, withSign, if_neg (by simp)]
  | true => rw [signed_true, Int.cast_neg, Int.cast_natCast, neg_div, withSign, if_pos rfl]

theorem nearestMagnitude_zero : nearestMagnitude 0 = 0 := by
  rw [nearestMagnitude, Rat.num_zero, Int.natAbs_zero, Nat.zero_mul]
  exact roundedUnits_zero (Rat.den_pos 0)

/-- The sign does not matter to rounding. -/
theorem nearestUnits_withSign (negative : Bool) {q : ℚ} (nonneg : 0 ≤ q) :
    nearestUnits (withSign negative q) = signed negative (nearestMagnitude q) := by
  cases negative with
  | false => rw [signed_false, withSign, if_neg (by simp), nearestUnits_of_nonneg nonneg]
  | true =>
    rw [signed_true, withSign, if_pos rfl]
    rcases nonneg.eq_or_lt with rfl | positive
    · -- Zero has no sign.
      rw [neg_zero, nearestUnits_of_nonneg le_rfl, nearestMagnitude_zero]
      rfl
    · have magnitude : nearestMagnitude (-q) = nearestMagnitude q := by
        rw [nearestMagnitude, Rat.num_neg_eq_neg_num, Int.natAbs_neg, Rat.den_neg_eq_den]
        rfl
      rw [nearestUnits_of_neg (neg_lt_zero.mpr positive), magnitude]

theorem nearestMagnitude_div (n : Nat) {d : Nat} (positive : 0 < d) :
    nearestMagnitude ((n : ℚ) / d) = roundedUnits (n * unit) d :=
  nearestMagnitude_of_div positive (abs_of_nonneg (ratio_nonneg n d))

/-- The number from a ratio is the one nearest to it. -/
theorem place_ofRatio_eq_nearest (negative : Bool) (n : Nat) {d : Nat} (positive : 0 < d) :
    (ofRatio negative n d).place = nearest (withSign negative ((n : ℚ) / d)) := by
  rw [place_ofRatio_signed negative n positive, nearest, nearestUnits_withSign _ (ratio_nonneg _ _),
    nearestMagnitude_div n positive]

/-! ### Values of numbers -/

/-- The value of a finite number. -/
def rational? (x : Binary64) : Option ℚ :=
  match x.place with
  | .at units => some ((units : ℚ) / (unit : ℚ))
  | .nowhere | .below | .above => none

/-- A number rounded toward zero. -/
def towardZero (q : ℚ) : Int := if q < 0 then ⌈q⌉ else ⌊q⌋

theorem towardZero_mono {q r : ℚ} (le : q ≤ r) : towardZero q ≤ towardZero r := by
  unfold towardZero
  rcases lt_or_ge q 0 with negative | nonneg
  · rw [if_pos negative]
    rcases lt_or_ge r 0 with negative' | nonneg'
    · rw [if_pos negative']
      exact Int.ceil_mono le
    · rw [if_neg (not_lt.mpr nonneg')]
      calc ⌈q⌉ ≤ 0 := Int.ceil_le.mpr (by exact_mod_cast negative.le)
        _ ≤ ⌊r⌋ := Int.floor_nonneg.mpr nonneg'
  · rw [if_neg (not_lt.mpr nonneg), if_neg (not_lt.mpr (nonneg.trans le))]
    exact Int.floor_mono le

theorem towardZero_neg (q : ℚ) : towardZero (-q) = -towardZero q := by
  unfold towardZero
  rcases lt_trichotomy q 0 with negative | rfl | positive
  · rw [if_pos negative, if_neg (by linarith), Int.floor_neg]
  · simp
  · rw [if_pos (by linarith), if_neg (by linarith), Int.ceil_neg]

theorem towardZero_div (negative : Bool) (n : Nat) (d : Nat) :
    towardZero (withSign negative ((n : ℚ) / d)) = signed negative (n / d) := by
  have whole : towardZero ((n : ℚ) / d) = (n / d : Nat) := by
    have nonneg : ¬ (n : ℚ) / d < 0 := not_lt.mpr (ratio_nonneg n d)
    rw [towardZero, if_neg nonneg]
    rw [← Int.cast_natCast n, Rat.floor_intCast_div_natCast]
    rfl
  cases negative with
  | false => rwa [withSign, if_neg (by simp), signed_false]
  | true =>
    rw [withSign, if_pos rfl, signed_true, towardZero_neg, whole]

/-- The integer part of a number is its value rounded toward zero. -/
theorem truncate?_eq_map (x : Binary64) : x.truncate? = x.rational?.map towardZero := by
  cases x with
  | nan => rfl
  | infinite negative => cases negative <;> rfl
  | finite negative s e canonical =>
    have whole := towardZero_div negative (s * 2 ^ e) unit
    rw [← signed_div] at whole
    exact congrArg some whole.symm

/-- The units of a finite number are rounded to themselves. -/
theorem roundedUnits_of_canonical {s e : Nat} (canonical : Canonical s e) :
    roundedUnits (s * 2 ^ e * unit) unit = s * 2 ^ e := by
  -- The exponent that rounding looks for is the one that the number already has.
  have own : Reaches (s * 2 ^ e * unit) unit e := by
    constructor
    · calc s * 2 ^ e * unit
          < 2 ^ 53 * 2 ^ e * unit := by
            have short : s * 2 ^ e < 2 ^ 53 * 2 ^ e :=
              Nat.mul_lt_mul_of_pos_right canonical.1 (Nat.two_pow_pos e)
            exact Nat.mul_lt_mul_of_pos_right short unit_pos
        _ = unit * 2 ^ (e + 53) := by ring
    · refine canonical.2.1.imp_right fun full => ?_
      calc unit * 2 ^ (e + 52)
          = 2 ^ 52 * 2 ^ e * unit := by ring
        _ ≤ s * 2 ^ e * unit := Nat.mul_le_mul_right _ (Nat.mul_le_mul_right _ full)
  have same : exponentFor (s * 2 ^ e * unit) unit = e := (reaches_exponentFor unit_pos).unique own
  have whole : s * 2 ^ e * unit = s * (unit * 2 ^ e) := by ring
  rw [roundedUnits, same, whole, roundQuotient_mul s (Nat.mul_pos unit_pos (Nat.two_pow_pos e))]

theorem rational?_eq_some_iff {x : Binary64} {q : ℚ} :
    x.rational? = some q ↔ ∃ units, x.place = .at units ∧ q = (units : ℚ) / (unit : ℚ) := by
  unfold rational?
  constructor
  · intro value
    cases place : x.place with
    | «at» units =>
      rw [place] at value
      exact ⟨units, rfl, (Option.some.inj value).symm⟩
    | nowhere | below | above =>
      rw [place] at value
      cases value
  · rintro ⟨units, place, rfl⟩
    rw [place]

/-- A number of the format is nearest to its own value. -/
theorem place_eq_nearest {x : Binary64} {q : ℚ} (value : x.rational? = some q) :
    x.place = nearest q := by
  cases x with
  | nan => cases value
  | infinite negative => cases negative <;> cases value
  | finite negative s e canonical =>
    cases value
    have within : s * 2 ^ e < limit := by
      have top : greatest = 2045 := by
        unfold greatest
        rfl
      exact lt_limit canonical.1 (top ▸ canonical.2.2)
    have units : (finite negative s e canonical).units = signed negative (s * 2 ^ e) := rfl
    rw [units, signed_div, nearest, nearestUnits_withSign _ (ratio_nonneg _ _),
      nearestMagnitude_div _ unit_pos, roundedUnits_of_canonical canonical, placeAt, natAbs_signed,
      if_pos within]
    rfl

/-! ### Integers -/

theorem withSign_natAbs (n : Int) : withSign (n < 0) n.natAbs = n := by
  rw [Nat.cast_natAbs, Int.cast_abs, withSign]
  by_cases negative : n < 0
  · rw [if_pos (decide_eq_true negative), abs_of_neg (by exact_mod_cast negative), neg_neg]
  · rw [if_neg (by simpa using negative), abs_of_nonneg (by exact_mod_cast not_lt.mp negative)]

theorem place_ofInt (n : Int) : (ofInt n).place = nearest n := by
  rw [ofInt, place_ofRatio_eq_nearest _ _ (by decide), Nat.cast_one, div_one, withSign_natAbs]

/-- A whole number up to `2 ^ 53` is a number of the format. -/
theorem rational?_ofInt {n : Int} (few : n.natAbs ≤ 2 ^ 53) : (ofInt n).rational? = some (n : ℚ) := by
  have whole : roundedUnits (n.natAbs * unit) 1 = n.natAbs * unit := by
    have same := roundedUnits_whole (d := 1) (by decide) few
    rwa [Nat.mul_one] at same
  have within : n.natAbs * unit < limit := by
    have far : 2 ^ 53 * unit < limit := by decide +kernel
    exact Nat.lt_of_le_of_lt (Nat.mul_le_mul_right unit few) far
  have place := place_ofRatio_signed (n < 0) n.natAbs (d := 1) (by decide)
  rw [whole, placeAt, natAbs_signed, if_pos within] at place
  refine rational?_eq_some_iff.mpr ⟨_, place, ?_⟩
  have filled : (unit : ℚ) ≠ 0 := Nat.cast_ne_zero.mpr unit_pos.ne'
  rw [signed_div, Nat.cast_mul, mul_div_cancel_right₀ _ filled, withSign_natAbs]

end DomainScout.Binary64
