import DomainScout.Number.Binary64

/-!
# Shortest decimals

A finite binary64 number is shown with the fewest decimal digits that read back to it. The reals
that round to the number form an interval around it, which holds its ends exactly if the
significand is even. For one, two, … digits, the two neighbours of the number among the decimals
with that many digits are tested; the first count with a hit wins, of two hits the nearer, and
of two equally near hits the even one.
-/
namespace DomainScout

/-- The number `0.d₁d₂… · 10 ^ point`. -/
structure Decimal where
  /-- The digits `d₁d₂…` read as a natural number. -/
  digits : Nat
  /-- The power of ten. -/
  point : Int
  deriving DecidableEq

/-- The digits of a natural number in base ten. -/
def decimalDigits (n : Nat) : List Char := Nat.toDigits 10 n

namespace Binary64

/-- A number between its neighbours, all counted in quarters of a unit. -/
structure Interval where
  /-- Where the next smaller number takes over. -/
  low : Nat
  /-- The number itself. -/
  value : Nat
  /-- Where the next greater number takes over. -/
  high : Nat
  /-- The ends still round to the number. -/
  closed : Bool

/-- The reals that round to a number with a nonzero significand. -/
def interval (significand exponent : Nat) : Interval :=
  let gap := Nat.pow 2 exponent
  let value := 4 * significand * gap
  { low := value - (if significand = Nat.pow 2 52 ∧ exponent ≠ 0 then gap else 2 * gap)
    value
    high := value + 2 * gap
    closed := significand % 2 == 0 }

/-- Membership of `numerator / denominator` quarters. -/
def Interval.holds (i : Interval) (numerator denominator : Nat) : Bool :=
  if i.closed then i.low * denominator ≤ numerator && numerator ≤ i.high * denominator
  else i.low * denominator < numerator && numerator < i.high * denominator

/-- The power of ten just above the number. -/
def Interval.point (i : Interval) : Int :=
  ((decimalDigits (i.value * Nat.pow 10 400 / (4 * unit))).length : Int) - 400

/-- The best decimal with `count` digits that rounds to the number. -/
def Interval.decimal? (i : Interval) (point : Int) (count : Nat) : Option Decimal :=
  let up := Nat.pow 10 ((count : Int) - point).toNat
  let down := Nat.pow 10 (point - count).toNat * (4 * unit)
  let below := i.value * up / down
  let rest := 2 * (i.value * up % down)
  let hit (c : Nat) : Bool := i.holds (c * down) up
  let nearer := if rest < down ∨ (rest = down ∧ below % 2 = 0) then below else below + 1
  let farther := if nearer = below then below + 1 else below
  if hit nearer then some ⟨nearer, point + ((decimalDigits nearer).length - count : Int)⟩
  else if hit farther then some ⟨farther, point + ((decimalDigits farther).length - count : Int)⟩
  else none

/-- The shortest decimal that reads back, for a number with a nonzero significand. -/
def shortest (significand exponent : Nat) : Decimal :=
  let i := interval significand exponent
  let point := i.point
  ((List.range 17).findSome? fun n => i.decimal? point (n + 1)).getD ⟨0, 0⟩

end Binary64

/-- How numbers are written out: positionally for middling magnitudes, else with an exponent. -/
structure NumberFormat where
  /-- The least exponent of ten that is written positionally. -/
  leastPositional : Int
  /-- The least exponent of ten beyond the positional ones. -/
  firstScientific : Int
  /-- The fewest digits of a written exponent. -/
  exponentWidth : Nat

/-- Numbers are positional from `10 ^ -4` to below `10 ^ 16`, and exponents have a sign and at
least two digits. -/
def plainFormat : NumberFormat := ⟨-4, 16, 2⟩

/-- Digits behind a point, with zeros before and after as the point asks for. -/
def positional (digits : List Char) (point : Int) : List Char :=
  if point ≤ 0 then '0' :: '.' :: List.replicate (-point).toNat '0' ++ digits
  else
    let padded := digits ++ List.replicate (point.toNat - digits.length) '0'
    let fraction := padded.drop point.toNat
    padded.take point.toNat ++ '.' :: (if fraction.isEmpty then ['0'] else fraction)

/-- Digits with zeros in front, at least `width` of them. -/
def padded (width : Nat) (digits : List Char) : List Char :=
  List.replicate (width - digits.length) '0' ++ digits

/-- A power of ten with its mark and its sign. -/
def powerMark (width : Nat) (exponent : Int) : List Char :=
  'e' :: (if exponent < 0 then '-' else '+') :: padded width (decimalDigits exponent.natAbs)

/-- One digit before the point, and the exponent with its sign. -/
def scientific (format : NumberFormat) (digits : List Char) (exponent : Int) : List Char :=
  digits.take 1 ++ (if digits.length ≤ 1 then [] else '.' :: digits.drop 1)
    ++ powerMark format.exponentWidth exponent

/-- The text of a decimal. -/
def Decimal.render (format : NumberFormat) (d : Decimal) : List Char :=
  let digits := (decimalDigits d.digits).reverse.dropWhile (· == '0') |>.reverse
  let exponent := d.point - 1
  if format.leastPositional ≤ exponent ∧ exponent < format.firstScientific then
    positional digits d.point
  else scientific format digits exponent

/-- The text of a number: the shortest decimal that reads back. -/
def Binary64.text : Binary64 → String
  | .nan => "nan"
  | .infinite negative => if negative then "-inf" else "inf"
  | .finite negative significand exponent _ =>
    let magnitude := if significand = 0 then "0.0".toList
      else (shortest significand exponent).render plainFormat
    String.ofList (if negative then '-' :: magnitude else magnitude)

end DomainScout
