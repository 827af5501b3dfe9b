import DomainScout.Number.Reading
import DomainScout.Text.Blank
import DomainScout.Text.Part
import DomainScout.Value.Display

/-!
# Texts and lists from scalars

Clients send numbers, truth values and texts alike; a filter keeps them all as trimmed text, and
a blank one counts as missing. An integer is written out only up to a limit on its length. A list
of terms may come as one text, split at commas and blanks, or as a list of scalars.
-/
namespace DomainScout.Criteria

open Text

/-- A value that should have been a scalar with a text. -/
inductive NotScalar where
  | list
  | object
  /-- An integer with too many digits. -/
  | tooLong
  deriving DecidableEq

/-- What a client is told. -/
def NotScalar.message : NotScalar → String
  | list => "expected a scalar value, got list"
  | object => "expected a scalar value, got dict"
  | tooLong =>
    "Exceeds the limit (4300 digits) for integer string conversion; "
      ++ "use sys.set_int_max_str_digits() to increase the limit"

/-- The trimmed text, if there is any. -/
def nonBlank? (s : String) : Option String :=
  let trimmed := trim s
  if trimmed = "" then none else some trimmed

/-- An integer can be written out. -/
def isWritable (n : Int) : Bool := n.natAbs < Nat.pow 10 Number.maxIntegerDigits

/-- The trimmed text of a scalar, if there is any. Truth values are written in lower case. -/
def textOf : Value → Except NotScalar (Option String)
  | .null => .ok none
  | .bool b => .ok (some (if b then "true" else "false"))
  | .int n => if isWritable n then .ok (nonBlank? (Value.int n).display) else .error .tooLong
  | .list _ => .error .list
  | .object _ => .error .object
  | v => .ok (nonBlank? v.display)

/-- A comma or a blank. -/
def separatesTerms (c : Char) : Bool := c == ',' || isBlank c

/-- The terms of one text. -/
def splitTerms (s : String) : List String := (runs separatesTerms s.toList).map String.ofList

/-- The terms of a list of scalars, or of one scalar. -/
def termsOf : Value → Except NotScalar (List String)
  | .list items => do
    let texts ← items.mapM textOf
    return texts.filterMap id
  | v => do
    let text ← textOf v
    return match text with
      | none => []
      | some s => splitTerms s

end DomainScout.Criteria
