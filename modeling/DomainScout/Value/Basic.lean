import DomainScout.Number.Binary64
import DomainScout.Text.Glyph

/-!
# Dynamic values

Request bodies, remote payloads, database cells and bound parameters are all values of one kind:
what a JSON document can hold. Integers are exact, and objects keep the order of their fields.
Texts and names are sequences of characters, but for the few that a document spells with broken
pairs.
-/
namespace DomainScout

open Text

/-- The name of a field. -/
inductive FieldName where
  | plain (name : String)
  /-- A name with a broken pair in it. -/
  | ragged (glyphs : Glyphs)
  deriving DecidableEq

instance : Coe String FieldName := ⟨.plain⟩

/-- The name that some glyphs spell. -/
def FieldName.ofGlyphs (glyphs : Glyphs) : FieldName :=
  match glyphs.text? with
  | some name => .plain name
  | none => .ragged glyphs

/-- A value whose shape is only known at run time. -/
inductive Value where
  | null
  | bool (b : Bool)
  | int (n : Int)
  | real (x : Binary64)
  | text (s : String)
  /-- A text with a broken pair in it. -/
  | ragged (glyphs : Glyphs)
  | list (items : List Value)
  | object (fields : List (FieldName × Value))
  deriving Inhabited, BEq

/-- Names and the values that they stand for. -/
abbrev Fields := List (FieldName × Value)

namespace Value

/-- The text that some glyphs spell. -/
def ofGlyphs (glyphs : Glyphs) : Value :=
  match glyphs.text? with
  | some s => text s
  | none => ragged glyphs

/-- Neither missing nor empty nor zero nor false. -/
def truthy : Value → Bool
  | null => false
  | bool b => b
  | int n => n != 0
  | real x => !x.isZero
  | text s => s != ""
  | ragged _ => true
  | list items => !items.isEmpty
  | object fields => !fields.isEmpty

/-- A value that counts, or the fallback. -/
def orElse (v fallback : Value) : Value := if v.truthy then v else fallback

/-- The value of a field, in a list of fields without repeated names. -/
def lookup? (name : FieldName) (fields : Fields) : Option Value := fields.lookup name

/-- The value of a field of an object. -/
def field? (name : FieldName) : Value → Option Value
  | object fields => lookup? name fields
  | _ => none

/-- Set a field, in its old place if there is one and else at the end. -/
def put (name : FieldName) (v : Value) : Fields → Fields
  | [] => [(name, v)]
  | (n, old) :: rest => if n = name then (n, v) :: rest else (n, old) :: put name v rest

/-- Fields from pairs in order of arrival: a later value takes the place of an earlier one. -/
def ofPairs (pairs : Fields) : Fields :=
  pairs.foldl (fun fields pair => put pair.1 pair.2 fields) []

/-- A text or nothing. -/
def ofText? : Option String → Value
  | none => null
  | some s => text s

/-- The values that stand for themselves: everything but lists and objects. -/
def isScalar : Value → Bool
  | list _ | object _ => false
  | _ => true

mutual

/-- How many values lie within one another at most, from the outermost one on. -/
def levels : Value → Nat
  | list items => itemLevels items + 1
  | object fields => fieldLevels fields + 1
  | _ => 1

/-- The levels of the deepest item. -/
def itemLevels : List Value → Nat
  | [] => 0
  | v :: rest => max (levels v) (itemLevels rest)

/-- The levels of the deepest field. -/
def fieldLevels : List (FieldName × Value) → Nat
  | [] => 0
  | (_, v) :: rest => max (levels v) (fieldLevels rest)

end

end Value

end DomainScout
