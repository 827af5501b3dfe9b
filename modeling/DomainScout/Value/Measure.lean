import DomainScout.Value.Numeric

/-!
# Measures

A measure is a number that still knows whether it is whole or real. The difference of two whole
measures is exact; where a real one takes part, both are taken as real and the difference is
rounded. Measures are compared by what they stand for, without any rounding, and what is not a
number compares with nothing.
-/
namespace DomainScout

/-- A whole or a real number. -/
inductive Measure where
  | whole (n : Int)
  | real (x : Binary64)
  deriving DecidableEq

namespace Measure

/-- The number of a value; a text is none, whatever it spells. -/
def ofValue : Value → Except NumberFault Measure
  | .bool b => .ok (.whole (if b then 1 else 0))
  | .int n => .ok (.whole n)
  | .real x => .ok (.real x)
  | _ => .error .wrongType

/-- A number of milliseconds in seconds, to the nearest real number. -/
def ofMilliseconds (n : Nat) : Measure := .real (.ofRatio false n 1000)

/-- The real number nearest to a measure; a whole one may be out of range. -/
def toReal : Measure → Except NumberFault Binary64
  | whole n => Value.realOfInt n
  | real x => .ok x

/-- How much lies between an earlier measure and a later one, if both are in range. -/
def since? : Measure → Measure → Except NumberFault Measure
  | whole later, whole earlier => .ok (.whole (later - earlier))
  | later, earlier => return .real ((← later.toReal).minus (← earlier.toReal))

/-- How much lies between an earlier measure and a later one; what cannot be told is not a
number. -/
def since (later earlier : Measure) : Measure :=
  (later.since? earlier).toOption.getD (.real .nan)

/-- Where a measure lies on the line of numbers. -/
def place : Measure → Place
  | whole n => .at (n * Binary64.unit)
  | real x => x.place

/-- A measure is as great as another one, or greater. -/
def reaches (x y : Measure) : Bool := y.place.atMost x.place

example : (whole (2 ^ 53 + 1)).reaches (real (.ofInt (2 ^ 53))) = true := by decide +kernel

example : (real (.ofInt (2 ^ 53))).reaches (whole (2 ^ 53 + 1)) = false := by decide +kernel

example : ((real (.ofRatio false 3 10)).since (real (.ofRatio false 2 10))).reaches
    (real (.ofRatio false 1 10)) = false := by decide +kernel

end Measure

end DomainScout
