import DomainScout.Number.Shortest

/-!
# Decimals of a chosen length

A number is also written with as many digits as somebody asks for: so many places behind the
point, so many behind the first digit with a power of ten, or so many significant ones in
whichever of the two forms suits the magnitude. The exact value is rounded once, a tie to the even
neighbour.
-/
namespace DomainScout

/-- Which digits are counted. -/
inductive RoundedForm where
  /-- The places behind the point. -/
  | places
  /-- The places behind the first digit, which a power of ten follows. -/
  | power
  /-- The significant digits. -/
  | significant
  deriving DecidableEq

namespace Binary64

/-- The number of steps of `10 ^ -places` in a magnitude, to the nearest. -/
def steps (magnitude : Nat) (places : Int) : Nat :=
  roundQuotient (magnitude * Nat.pow 10 places.toNat) (unit * Nat.pow 10 (-places).toNat)

/-- The power of ten of the first digit of a nonzero magnitude. -/
def leadingPower (magnitude : Nat) : Int :=
  ((decimalDigits (magnitude * Nat.pow 10 400 / unit)).length : Int) - 401

/-- The first digit of a magnitude and some places behind it, and the power of ten of the first
digit, which rounding may have raised. -/
def leadingDigits (magnitude places : Nat) : Nat × Int :=
  if magnitude = 0 then (0, 0)
  else
    let power := leadingPower magnitude
    let digits := steps magnitude (places - power)
    if digits = Nat.pow 10 (places + 1) then (Nat.pow 10 places, power + 1) else (digits, power)

/-- Digits before and behind a point, which is left out before nothing unless it is kept. -/
def pointed (keepPoint : Bool) (whole fraction : List Char) : List Char :=
  whole ++ (if fraction.isEmpty && !keepPoint then [] else '.' :: fraction)

/-- A fraction without the zeros at its end, unless these are kept. -/
def trimmed (keepZeros : Bool) (fraction : List Char) : List Char :=
  if keepZeros then fraction else (fraction.reverse.dropWhile (· == '0')).reverse

/-- A magnitude with some places behind the point. -/
def withPlaces (keepPoint keepZeros : Bool) (magnitude places : Nat) : List Char :=
  let digits := padded (places + 1) (decimalDigits (steps magnitude places))
  pointed keepPoint (digits.take (digits.length - places))
    (trimmed keepZeros (digits.drop (digits.length - places)))

/-- A magnitude with some places behind its first digit, and a power of ten. -/
def withPower (keepPoint keepZeros : Bool) (magnitude places : Nat) : List Char :=
  let (digits, power) := leadingDigits magnitude places
  let digits := padded (places + 1) (decimalDigits digits)
  pointed keepPoint (digits.take 1) (trimmed keepZeros (digits.drop 1))
    ++ powerMark plainFormat.exponentWidth power

/-- A magnitude with some significant digits, at least one: without a power of ten where the point
stands among the digits or not far before them. -/
def withSignificant (keep : Bool) (magnitude count : Nat) : List Char :=
  let count := max 1 count
  let (_, power) := leadingDigits magnitude (count - 1)
  if plainFormat.leastPositional ≤ power ∧ power < count then
    withPlaces keep keep magnitude (count - 1 - power).toNat
  else withPower keep keep magnitude (count - 1)

/-- A number with a chosen count of digits. In the full form a point and zeros at the end are kept
that the short form leaves out. -/
def rounded (form : RoundedForm) (full : Bool) (count : Nat) : Binary64 → List Char
  | nan => ['n', 'a', 'n']
  | infinite negative => if negative then ['-', 'i', 'n', 'f'] else ['i', 'n', 'f']
  | x@(finite negative _ _ _) =>
    let text := match form with
      | .places => withPlaces full true x.magnitude count
      | .power => withPower full true x.magnitude count
      | .significant => withSignificant full x.magnitude count
    if negative then '-' :: text else text

example : String.ofList ((ofRatio true 5 2).rounded .places false 0) = "-2" := by decide +kernel

example : String.ofList ((ofRatio false 99999 100000).rounded .power false 2) = "1.00e+00" := by
  decide +kernel

end Binary64

end DomainScout
