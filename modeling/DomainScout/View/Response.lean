import DomainScout.Store.Explorer
import DomainScout.Text.Name

/-!
# Responses

Requests are answered with objects whose fields have joined names. A request that is at fault is
refused, and a failure of the database is reported; whatever else goes wrong is not handled here.
-/
namespace DomainScout

/-- Why a request gets no response. -/
inductive ViewError where
  /-- The request is at fault. -/
  | invalid (message : String)
  /-- The database failed. -/
  | service (message : String)
  | unhandled (failure : Failure)

namespace View

/-- What a failure of the database means to a request. -/
def ofFailure : Failure → ViewError
  | .query message | .poolTimeout message => .service message
  | failure => .unhandled failure

/-- The request body: an object, or nothing. -/
def bodyOf : Value → Except ViewError Fields
  | .null => .ok []
  | .object fields => .ok fields
  | _ => .error (.invalid "Request body must be a JSON object")

/-- A field of a request body. -/
def field (body : Fields) (name : String) : Value :=
  (Value.lookup? name body).getD .null

/-- A response with a value of the wrong type. -/
def malformed : ViewError := .unhandled (.crash .malformed)

/-- A value that has to be a text. -/
def textOf : Value → Except ViewError String
  | .text s => .ok s
  | _ => .error malformed

/-- A value that has to be a text if there is one. -/
def textOf? : Value → Except ViewError (Option String)
  | .null => .ok none
  | .text s => .ok (some s)
  | _ => .error malformed

mutual

/-- The value with null in place of every number that JSON has no digits for. -/
def finite : Value → Value
  | .real x => if x.truncate?.isSome then .real x else .null
  | .list items => .list (finiteItems items)
  | .object fields => .object (finiteFields fields)
  | v => v

/-- The items of a list, with finite numbers only. -/
def finiteItems : List Value → List Value
  | [] => []
  | v :: rest => finite v :: finiteItems rest

/-- The fields of an object, with finite numbers only. -/
def finiteFields : Fields → Fields
  | [] => []
  | (name, v) :: rest => (name, finite v) :: finiteFields rest

end

/-- The most levels that a value in a response may have. -/
def maxLevels : Nat := 255

/-- A value of any kind as a response holds it. -/
def enclose (v : Value) : Except ViewError Value :=
  if v.levels ≤ maxLevels then .ok (finite v) else .error (.unhandled (.crash .tooDeep))

/-- An object whose field names are given with underscores. -/
def object (fields : List (String × Value)) : Value :=
  .object (fields.map fun (name, v) => (Text.camelCase name, v))

end View

end DomainScout
