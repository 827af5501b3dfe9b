import DomainScout.Criteria.Basic
import DomainScout.Criteria.Scalar
import DomainScout.Text.Case

/-!
# Reading criteria

Criteria come as an object whose keys are in either spelling; of two keys for one filter the
preferred one counts, even if its value is missing. Unknown keys are ignored. Every filter is read
on its own, so all problems are reported together, in the order of the filters and under the keys
that were used.
-/
namespace DomainScout.Criteria

open Text

/-- Why the value of a filter is refused. -/
inductive Fault where
  | notScalar (shape : NotScalar)
  /-- The value names no lifecycle state. -/
  | unknownState
  deriving DecidableEq

/-- What a client is told about a value. -/
def Fault.message : Fault → String
  | notScalar shape => "Value error, " ++ shape.message
  | unknownState => "Input should be 'active', 'expiring' or 'deleted'"

/-- A filter that was refused. -/
structure Problem where
  /-- The key that was used. -/
  key : String
  /-- Why its value was refused. -/
  fault : Fault
  deriving DecidableEq

/-- A problem as one phrase. -/
def Problem.message (problem : Problem) : String := problem.key ++ ": " ++ problem.fault.message

/-- Why criteria are refused. -/
inductive Refusal where
  /-- Criteria that are no object. -/
  | notObject
  /-- Filters with problems. -/
  | problems (first : Problem) (more : List Problem)
  deriving DecidableEq

/-- What a client is told. -/
def Refusal.message : Refusal → String
  | notObject => "criteria must be an object"
  | problems first more =>
    "Invalid criteria: " ++ "; ".intercalate ((first :: more).map Problem.message)

/-- The first of the keys that is present, and its value. -/
def firstPresent? (fields : Fields) : List String → Option (String × Value)
  | [] => none
  | key :: keys =>
    match Value.lookup? key fields with
    | some v => some (key, v)
    | none => firstPresent? fields keys

/-- Read a text filter. -/
def readText (v : Value) : Except Fault (Option String) := (textOf v).mapError .notScalar

/-- Read the top-level domains. -/
def readTerms (v : Value) : Except Fault (List String) := (termsOf v).mapError .notScalar

/-- Read a lifecycle state in any letter case. -/
def readLifecycle (v : Value) : Except Fault (Option Lifecycle) := do
  match ← readText v with
  | none => return none
  | some s =>
    match Lifecycle.ofName? (lower s) with
    | some state => return some state
    | none => throw .unknownState

/-- Read a safety flag: only a literal truth switches it on. -/
def readFlag : Value → Bool
  | .bool b => b
  | _ => false

/-- The value of a filter in an object, missing if none of its keys is present. -/
def Field.raw (fields : Fields) (field : Field) : Value :=
  ((firstPresent? fields field.keys).map (·.2)).getD .null

/-- The fault of a filter's value, if it has one. -/
def Field.fault? (field : Field) (v : Value) : Option Fault :=
  let faultOf {α : Type} (reading : Except Fault α) : Option Fault :=
    match reading with
    | .error fault => some fault
    | .ok _ => none
  match field with
  | .text _ => faultOf (readText v)
  | .tld => faultOf (readTerms v)
  | .lifecycle => faultOf (readLifecycle v)
  | .safeSpamhausOnly | .safeViewsTotalOnly => none

/-- The problem of a filter, if it has one. -/
def Field.problem? (fields : Fields) (field : Field) : Option Problem := do
  let (key, v) ← firstPresent? fields field.keys
  let fault ← field.fault? v
  return ⟨key, fault⟩

/-- The problems of an object, in the order of the filters. -/
def problems (fields : Fields) : List Problem :=
  Field.all.filterMap (Field.problem? fields)

/-- What a reading gave, or the fallback where it failed. -/
def okOr {α : Type} (fallback : α) : Except Fault α → α
  | .ok a => a
  | .error _ => fallback

/-- The criteria of an object without problems. -/
def ofFields (fields : Fields) : Criteria where
  text field := okOr none (readText (Field.raw fields (.text field)))
  tlds := okOr [] (readTerms (Field.raw fields .tld))
  lifecycle := okOr none (readLifecycle (Field.raw fields .lifecycle))
  safeSpamhausOnly := readFlag (Field.raw fields .safeSpamhausOnly)
  safeViewsTotalOnly := readFlag (Field.raw fields .safeViewsTotalOnly)

/-- Read criteria; a missing value filters nothing. -/
def ofValue : Value → Except Refusal Criteria
  | .null => .ok unfiltered
  | .object fields =>
    match problems fields with
    | [] => .ok (ofFields fields)
    | first :: more => .error (.problems first more)
  | _ => .error .notObject

end DomainScout.Criteria
