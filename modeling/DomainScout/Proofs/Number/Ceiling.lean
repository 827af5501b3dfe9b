import DomainScout.Proofs.Number.Range

/-!
# Quotients that are rounded up

A quotient of natural numbers up to `2 ^ 53` keeps its ceiling when it is rounded to binary64. Whole
numbers up to there are numbers of the format, so rounding leads across none of them. A quotient that
is not whole does not become so either: it lies at least one part in its denominator above the whole
number below it, and numbers of its magnitude are not that far apart. Only at `2 ^ 53` itself would a
tie be that wide, and a denominator for which there is one divides it.

Main statement: `Binary64.ceiling?_ofRatio`.
-/
namespace DomainScout.Binary64

/-- The finer units in one are a power of two. -/
@[irreducible] def fineness : Nat := 1074

theorem unit_eq : unit = 2 ^ fineness := by decide +kernel

/-! ### Whole numbers -/

theorem roundQuotient_mul (k : Nat) {d : Nat} (positive : 0 < d) : roundQuotient (k * d) d = k := by
  have floor : k * d / d = k := Nat.mul_div_cancel k positive
  have rest : k * d % d = 0 := Nat.mul_mod_left k d
  rcases roundQuotient_eq (k * d) d with ⟨eq, -⟩ | ⟨-, up⟩
  · rw [eq, floor]
  · omega

/-- A whole number up to `2 ^ 53` is a multiple of the distance of the numbers around it. -/
theorem two_pow_dvd_units {k d e : Nat} (positive : 0 < d) (few : k ≤ 2 ^ 53)
    (reaches : Reaches (k * unit * d) d e) : 2 ^ e ∣ k * unit := by
  rw [unit_eq] at reaches ⊢
  by_cases low : e ≤ fineness
  · exact Dvd.dvd.mul_left (Nat.pow_dvd_pow 2 low) k
  · -- Such an exponent is reached by the greatest whole number only.
    have reached : 2 ^ (e + 52) ≤ k * 2 ^ fineness := by
      have far := reaches.least.resolve_left (by omega)
      rw [Nat.mul_comm d] at far
      exact Nat.le_of_mul_le_mul_right far positive
    have below : k * 2 ^ fineness ≤ 2 ^ (53 + fineness) := by
      rw [Nat.pow_add]
      exact Nat.mul_le_mul_right _ few
    have height : e + 52 ≤ 53 + fineness :=
      (Nat.pow_le_pow_iff_right (by decide : 1 < 2)).mp (Nat.le_trans reached below)
    have exponent : e + 52 = 53 + fineness := by omega
    have units : k * 2 ^ fineness = 2 ^ (e + 52) :=
      Nat.le_antisymm (exponent ▸ below) reached
    rw [units]
    exact Nat.pow_dvd_pow 2 (Nat.le_add_right e 52)

/-- A whole number up to `2 ^ 53` is rounded to itself. -/
theorem roundedUnits_whole {k d : Nat} (positive : 0 < d) (few : k ≤ 2 ^ 53) :
    roundedUnits (k * unit * d) d = k * unit := by
  obtain ⟨m, units⟩ := two_pow_dvd_units positive few (reaches_exponentFor positive)
  unfold roundedUnits
  generalize exponentFor (k * unit * d) d = e at units ⊢
  have scaled : k * unit * d = m * (d * 2 ^ e) := by
    rw [units]
    ring
  rw [scaled, roundQuotient_mul m (Nat.mul_pos positive (Nat.two_pow_pos e)), units, Nat.mul_comm]

/-! ### Quotients that are not whole -/

/-- A quotient is rounded down by half a step at most. -/
theorem le_roundQuotient_add_half (n : Nat) {d : Nat} (positive : 0 < d) :
    2 * n ≤ d * (2 * roundQuotient n d) + d := by
  have parts : 2 * n = d * (2 * (n / d)) + 2 * (n % d) := by
    rw [Nat.mul_left_comm]
    have := Nat.div_add_mod n d
    omega
  have rest : n % d < d := Nat.mod_lt n positive
  rcases roundQuotient_eq n d with ⟨eq, down⟩ | ⟨eq, -⟩
  · rw [eq]
    omega
  · have step : d * (2 * (n / d + 1)) = d * (2 * (n / d)) + 2 * d := by ring
    rw [eq, step]
    omega

/-- Where rounding reached the whole number below, the numbers would lie two units apart for each part
of the denominator. -/
theorem two_units_le {n d e : Nat} (positive : 0 < d) (uneven : ¬ d ∣ n)
    (reached : roundQuotient (n * unit) (d * 2 ^ e) * 2 ^ e ≤ n / d * unit) :
    2 * unit ≤ d * 2 ^ e := by
  have close := le_roundQuotient_add_half (n * unit) (Nat.mul_pos positive (Nat.two_pow_pos e))
  have parts : 2 * (n * unit) = 2 * (d * (n / d * unit)) + 2 * (n % d * unit) :=
    calc 2 * (n * unit)
        = 2 * ((d * (n / d) + n % d) * unit) := by rw [Nat.div_add_mod]
      _ = 2 * (d * (n / d * unit)) + 2 * (n % d * unit) := by ring
  have low : d * (roundQuotient (n * unit) (d * 2 ^ e) * 2 ^ e) ≤ d * (n / d * unit) :=
    Nat.mul_le_mul_left d reached
  have same : d * 2 ^ e * (2 * roundQuotient (n * unit) (d * 2 ^ e)) =
      2 * (d * (roundQuotient (n * unit) (d * 2 ^ e) * 2 ^ e)) := by ring
  have rest : 0 < n % d := Nat.pos_of_ne_zero fun whole => uneven (Nat.dvd_of_mod_eq_zero whole)
  have one : unit ≤ n % d * unit := Nat.le_mul_of_pos_left unit rest
  omega

/-- Rounding a quotient of small numbers never reaches the whole number below it. -/
theorem lt_roundedUnits {n d : Nat} (positive : 0 < d) (few : n ≤ 2 ^ 53) (small : d ≤ 2 ^ 53)
    (uneven : ¬ d ∣ n) : n / d * unit < roundedUnits (n * unit) d := by
  by_contra reached
  have reaches : Reaches (n * unit) d (exponentFor (n * unit) d) := reaches_exponentFor positive
  unfold roundedUnits at reached
  generalize exponentFor (n * unit) d = e at reaches reached
  have wide := two_units_le positive uneven (Nat.not_lt.mp reached)
  rcases reaches.least with rfl | least
  · have huge : 2 ^ 53 < 2 * unit := by decide +kernel
    omega
  · -- Numbers lie that far apart at the greatest numerator only, and the denominator divides it.
    have split : d * 2 ^ (e + 52) = d * 2 ^ e * 2 ^ 52 := by rw [Nat.pow_add, Nat.mul_assoc]
    have most : n * unit ≤ 2 ^ 53 * unit := Nat.mul_le_mul_right unit few
    have greatest : n * unit = 2 ^ 53 * unit := by omega
    have numerator : n = 2 ^ 53 := Nat.eq_of_mul_eq_mul_right unit_pos greatest
    have width : d * 2 ^ e = 2 * unit := by omega
    have divides : d ∣ 2 ^ (1 + fineness) := by
      rw [Nat.pow_add, ← unit_eq, Nat.pow_one, ← width]
      exact Nat.dvd_mul_right d _
    obtain ⟨j, -, rfl⟩ := (Nat.dvd_prime_pow Nat.prime_two).mp divides
    have exponent : j ≤ 53 := (Nat.pow_le_pow_iff_right (by decide : 1 < 2)).mp small
    exact uneven (numerator ▸ Nat.pow_dvd_pow 2 exponent)

/-- Rounding a quotient of small numbers never exceeds the whole number above it. -/
theorem roundedUnits_le {n d : Nat} (positive : 0 < d) (few : n ≤ 2 ^ 53) (uneven : ¬ d ∣ n) :
    roundedUnits (n * unit) d ≤ (n / d + 1) * unit := by
  have some : n ≠ 0 := fun none => uneven (none ▸ Nat.dvd_zero d)
  have several : 2 ≤ d := by
    by_contra one
    have alone : d = 1 := by omega
    exact uneven (alone ▸ Nat.one_dvd n)
  have floor : n / d < n := Nat.div_lt_self (Nat.pos_of_ne_zero some) several
  have above : n ≤ (n / d + 1) * d := by
    rw [Nat.mul_comm]
    exact Nat.le_of_lt (Nat.lt_mul_div_succ n positive)
  calc roundedUnits (n * unit) d
      ≤ roundedUnits ((n / d + 1) * unit * d) d := by
        refine roundedUnits_mono positive ?_
        calc n * unit ≤ (n / d + 1) * d * unit := Nat.mul_le_mul_right unit above
          _ = (n / d + 1) * unit * d := by ring
    _ = (n / d + 1) * unit := roundedUnits_whole positive (by omega)

/-! ### Ceilings -/

/-- A small ratio is rounded to a finite number. -/
theorem exists_finite {n d : Nat} (positive : 0 < d) (few : n ≤ 2 ^ 53) :
    ∃ s e canonical, ofRatio false n d = .finite false s e canonical ∧
      s * 2 ^ e = roundedUnits (n * unit) d := by
  have far : 2 ^ 53 * unit < 2 ^ (greatest + 52) := by decide +kernel
  have within : roundedUnits (n * unit) d < limit :=
    roundedUnits_lt_limit positive (Nat.lt_of_le_of_lt (Nat.mul_le_mul_right unit few) far)
  rcases ofRatio_cases false n positive with ⟨-, s, e, canonical, eq⟩ | ⟨beyond, -⟩
  · have place := place_ofRatio positive n
    rw [eq, place_finite, placeOf, if_pos within] at place
    exact ⟨s, e, canonical, eq, Int.ofNat.inj (Place.at.inj place)⟩
  · exact absurd within (Nat.not_lt.mpr beyond)

theorem ceiling?_of_units {s e m : Nat} {canonical : Canonical s e} (units : s * 2 ^ e = m) :
    (finite false s e canonical).ceiling? = some (((m + (unit - 1)) / unit : Nat) : Int) :=
  units ▸ rfl

/-- The ceiling of a quotient that is not whole is next to its whole part. -/
theorem ceil_div_of_not_dvd {n d : Nat} (positive : 0 < d) (uneven : ¬ d ∣ n) :
    ⌈(n : ℚ) / d⌉ = (n / d + 1 : Nat) := by
  have parts : (0 : ℚ) < d := Nat.cast_pos.mpr positive
  have above : n < (n / d + 1) * d := by
    rw [Nat.mul_comm]
    exact Nat.lt_mul_div_succ n positive
  have below : n / d * d < n :=
    lt_of_le_of_ne (Nat.div_mul_le_self n d) fun same => uneven (Dvd.intro_left _ same)
  refine Int.ceil_eq_iff.mpr ⟨?_, ?_⟩
  · rw [lt_div_iff₀ parts]
    push_cast
    rw [add_sub_cancel_right]
    exact_mod_cast below
  · rw [div_le_iff₀ parts]
    exact_mod_cast Nat.le_of_lt above

/-- Rounding a quotient of small numbers does not change its ceiling. -/
theorem ceiling?_ofRatio {n d : Nat} (positive : 0 < d) (few : n ≤ 2 ^ 53) (small : d ≤ 2 ^ 53) :
    (ofRatio false n d).ceiling? = some ⌈(n : ℚ) / d⌉ := by
  obtain ⟨s, e, canonical, eq, units⟩ := exists_finite positive few
  rw [eq, ceiling?_of_units units]
  by_cases whole : d ∣ n
  · obtain ⟨k, rfl⟩ := whole
    have fewer : k ≤ 2 ^ 53 := Nat.le_trans (Nat.le_mul_of_pos_left k positive) few
    have scaled : d * k * unit = k * unit * d := by ring
    have rounded : (k * unit + (unit - 1)) / unit = k := by
      rw [Nat.mul_comm, Nat.mul_add_div unit_pos, Nat.div_eq_of_lt (Nat.sub_one_lt unit_pos.ne'),
        Nat.add_zero]
    rw [scaled, roundedUnits_whole positive fewer, rounded, Nat.cast_mul,
      mul_div_cancel_left₀ _ (Nat.cast_pos.mpr positive : (0 : ℚ) < d).ne', Int.ceil_natCast]
  · -- The rounded quotient lies between two whole numbers, and only the upper one can be reached.
    have low := lt_roundedUnits positive few small whole
    have high := roundedUnits_le positive few whole
    generalize roundedUnits (n * unit) d = m at low high
    have one := unit_pos
    have up : (n / d + 1) * unit = n / d * unit + unit := Nat.succ_mul _ _
    have rounded : (m + (unit - 1)) / unit = n / d + 1 := by
      refine Nat.div_eq_of_lt_le (by omega) ?_
      rw [Nat.succ_mul (n / d + 1)]
      omega
    rw [rounded, ceil_div_of_not_dvd positive whole]

end DomainScout.Binary64
