/-!
# Binary64 numbers

A finite number is a sign, a significand and an exponent, and stands for
`± significand · 2 ^ exponent / 2 ^ 1074`. The representation is unique: significands below
`2 ^ 52` occur with exponent zero only. Every operation is exact rational arithmetic followed by
one rounding to the nearest number, ties to the even significand.
-/
namespace DomainScout

/-- A significand and an exponent that stand for a number in the one possible way. -/
abbrev Canonical (significand exponent : Nat) : Prop :=
  significand < Nat.pow 2 53 ∧ (exponent = 0 ∨ Nat.pow 2 52 ≤ significand) ∧ exponent ≤ 2045

/-- A number of the binary64 format, with one not-a-number. -/
inductive Binary64 where
  /-- Not a number. -/
  | nan
  /-- Beyond the greatest finite number. -/
  | infinite (negative : Bool)
  /-- The number `± significand · 2 ^ exponent / 2 ^ 1074`. -/
  | finite (negative : Bool) (significand exponent : Nat) (canonical : Canonical significand exponent)
  deriving DecidableEq

/-- Where a number lies on the line of numbers, counted in units of binary64. -/
inductive Place where
  /-- On no place of the line. -/
  | nowhere
  /-- Below every finite number. -/
  | below
  | at (units : Int)
  /-- Above every finite number. -/
  | above

/-- A place lies at another one or below it. -/
def Place.atMost : Place → Place → Bool
  | nowhere, _ | _, nowhere => false
  | below, _ | _, above => true
  | .at a, .at b => a ≤ b
  | .at _, below | above, .at _ | above, below => false

namespace Binary64

instance : Inhabited Binary64 := ⟨nan⟩

/-- The number of finer units in one: finite numbers are multiples of `1 / unit`. -/
def unit : Nat := Nat.pow 2 1074

/-- The quotient rounded to the nearest natural number, a tie to the even one. -/
def roundQuotient (numerator denominator : Nat) : Nat :=
  let floor := numerator / denominator
  let rest := 2 * (numerator % denominator)
  if rest < denominator ∨ (rest = denominator ∧ floor % 2 = 0) then floor else floor + 1

/-- The exponent of the numbers around `numerator / denominator`, both counted in units: the least
one whose significands reach that far. -/
def exponentFor (numerator denominator : Nat) : Nat :=
  let guess := numerator.log2 - denominator.log2 - 53
  if numerator < denominator * Nat.pow 2 (guess + 53) then guess else guess + 1

/-- A number from a significand that rounding may have carried to `2 ^ 53`; out of range it is
infinite. -/
def ofSignificand (negative : Bool) (significand exponent : Nat) : Binary64 :=
  let (significand, exponent) :=
    if significand = Nat.pow 2 53 then (Nat.pow 2 52, exponent + 1) else (significand, exponent)
  if canonical : Canonical significand exponent then
    .finite negative significand exponent canonical
  else .infinite negative

/-- The number nearest to `± numerator / denominator`, for a positive denominator. -/
def ofRatio (negative : Bool) (numerator denominator : Nat) : Binary64 :=
  let scaled := numerator * unit
  let exponent := exponentFor scaled denominator
  ofSignificand negative (roundQuotient scaled (denominator * Nat.pow 2 exponent)) exponent

/-- The number nearest to an integer. -/
def ofInt (n : Int) : Binary64 := ofRatio (n < 0) n.natAbs 1

/-- The number of units in the magnitude of a finite number, zero for the others. -/
def magnitude : Binary64 → Nat
  | finite _ significand exponent _ => significand * Nat.pow 2 exponent
  | _ => 0

/-- The integer that a sign and a magnitude make. -/
def signed (negative : Bool) (n : Nat) : Int := if negative then -(n : Int) else n

/-- The integer part, for a finite number. -/
def truncate? : Binary64 → Option Int
  | x@(finite negative _ _ _) => some (signed negative (x.magnitude / unit))
  | _ => none

/-- The least integer that is not smaller, for a finite number. -/
def ceiling? : Binary64 → Option Int
  | x@(finite negative _ _ _) =>
    some (if negative then -((x.magnitude / unit : Nat) : Int)
      else ((x.magnitude + (unit - 1)) / unit : Nat))
  | _ => none

/-- Either zero. -/
def isZero (x : Binary64) : Bool :=
  match x with
  | finite _ significand _ _ => significand == 0
  | _ => false

/-- The units that a finite number stands for, zero for the others. -/
def units (x : Binary64) : Int :=
  match x with
  | finite negative _ _ _ => signed negative x.magnitude
  | _ => 0

/-- The difference of two numbers; a difference of zero is positive. -/
def minus : Binary64 → Binary64 → Binary64
  | nan, _ | _, nan => nan
  | infinite a, infinite b => if a = b then nan else infinite a
  | infinite a, finite _ _ _ _ => infinite a
  | finite _ _ _ _, infinite b => infinite !b
  | x@(finite _ _ _ _), y@(finite _ _ _ _) =>
    let units := x.units - y.units
    ofRatio (units < 0) units.natAbs unit

/-- Where a number lies on the line of numbers. -/
def place : Binary64 → Place
  | nan => .nowhere
  | infinite negative => if negative then .below else .above
  | x@(finite _ _ _ _) => .at x.units

/-- A number times a natural number. -/
def scale (factor : Nat) : Binary64 → Binary64
  | x@(finite negative _ _ _) => ofRatio negative (x.magnitude * factor) unit
  | infinite negative => if factor = 0 then nan else infinite negative
  | nan => nan

example : (ofRatio false 1 10).scale 3 ≠ ofRatio false 3 10 := by decide +kernel

example : (ofInt (2 ^ 53 + 1)).truncate? = some (2 ^ 53) := by decide +kernel

end Binary64

end DomainScout
