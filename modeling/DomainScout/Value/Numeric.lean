import DomainScout.Number.Reading
import DomainScout.Value.Basic

/-!
# Values as numbers

Numbers arrive as numbers, as truth values (which count as zero and one) and as text. A value
can fail to be a number in three ways: it is of the wrong type, it cannot be read, or it is out
of range.
-/
namespace DomainScout

/-- Why a value is no number. -/
inductive NumberFault where
  /-- Missing, a list or an object. -/
  | wrongType
  /-- A text that spells no number, or a number without an integer part. -/
  | unreadable
  /-- Beyond what the result can hold. -/
  | outOfRange
  deriving DecidableEq

namespace Value

/-- A number that has to be within range. -/
def inRange : Binary64 → Except NumberFault Binary64
  | .infinite _ => .error .outOfRange
  | x => .ok x

/-- The binary64 number nearest to an integer, if the integer is in range. -/
def realOfInt (n : Int) : Except NumberFault Binary64 := inRange (Binary64.ofInt n)

/-- A value as a real number. -/
def toReal : Value → Except NumberFault Binary64
  | bool b => realOfInt (if b then 1 else 0)
  | int n => realOfInt n
  | real x => .ok x
  | text s =>
    match Number.readReal? s.toList with
    | some x => .ok x
    | none => .error .unreadable
  | ragged _ => .error .unreadable
  | null | list _ | object _ => .error .wrongType

/-- The integer part of a real number. -/
def truncated (x : Binary64) : Except NumberFault Int :=
  match x with
  | .nan => .error .unreadable
  | .infinite _ => .error .outOfRange
  | x => .ok (x.truncate?.getD 0)

/-- A value as an integer. -/
def toInt : Value → Except NumberFault Int
  | bool b => .ok (if b then 1 else 0)
  | int n => .ok n
  | real x => truncated x
  | text s =>
    match Number.readInt? s.toList with
    | some n => .ok n
    | none => .error .unreadable
  | ragged _ => .error .unreadable
  | null | list _ | object _ => .error .wrongType

end Value

end DomainScout
