import DomainScout.Value.Display

/-!
# Writing JSON

Documents are written compactly for request bodies and with two spaces of indentation for people.
Characters outside ASCII are written as they are; quotes, backslashes and controls are escaped.
-/
namespace DomainScout.Json

open Value

/-- A character of a JSON string. -/
def escaped (c : Char) : List Char :=
  if c = '"' ∨ c = '\\' then ['\\', c]
  else if c = '\n' then ['\\', 'n']
  else if c = '\r' then ['\\', 'r']
  else if c = '\t' then ['\\', 't']
  else if c = '\x08' then ['\\', 'b']
  else if c = '\x0c' then ['\\', 'f']
  else if c.toNat < 0x20 then '\\' :: 'u' :: hexText 4 c.toNat
  else [c]

/-- A JSON string. -/
def string (s : String) : String :=
  String.ofList ('"' :: s.toList.flatMap escaped ++ ['"'])

/-- A glyph of a JSON string: half a pair can only stand there as an escape. -/
def escapedGlyph : Text.Glyph → List Char
  | .char c => escaped c
  | .half unit => '\\' :: 'u' :: hexText 4 unit

/-- A JSON string of glyphs. -/
def glyphString (glyphs : Text.Glyphs) : String :=
  String.ofList ('"' :: glyphs.flatMap escapedGlyph ++ ['"'])

/-- The name of a field as a JSON string. -/
def nameString : FieldName → String
  | .plain name => string name
  | .ragged glyphs => glyphString glyphs

/-- A JSON number, or the name of a number that JSON has no digits for. -/
def number (x : Binary64) : String :=
  match x with
  | .nan => "NaN"
  | .infinite negative => if negative then "-Infinity" else "Infinity"
  | x => x.text

/-- How a document is laid out. -/
structure Layout where
  /-- What stands between a bracket and a part, or between two parts, at a depth. -/
  gap : Nat → String
  /-- What stands between a name and its value. -/
  colon : String

/-- No blanks at all. -/
def compactLayout : Layout := ⟨fun _ => "", ":"⟩

/-- Every part on a line of its own, indented by two spaces for each level. -/
def indentedLayout : Layout :=
  ⟨fun depth => String.ofList ('\n' :: List.replicate (2 * depth) ' '), ": "⟩

/-- Parts between brackets; nothing stands between the brackets if there are no parts. -/
def bracketed (layout : Layout) (depth : Nat) (left right : String) (parts : List String) :
    String :=
  if parts.isEmpty then left ++ right
  else
    let separator := "," ++ layout.gap (depth + 1)
    left ++ layout.gap (depth + 1) ++ separator.intercalate parts ++ layout.gap depth ++ right

mutual

/-- Write a value at a depth. -/
def write (layout : Layout) (depth : Nat) : Value → String
  | .null => "null"
  | .bool b => if b then "true" else "false"
  | .int n => toString n
  | .real x => number x
  | .text s => string s
  | .ragged glyphs => glyphString glyphs
  | .list items => bracketed layout depth "[" "]" (writeItems layout (depth + 1) items)
  | .object fields =>
    bracketed layout depth "\x7b" "\x7d" (writeFields layout (depth + 1) fields)

/-- Write the items of a list. -/
def writeItems (layout : Layout) (depth : Nat) : List Value → List String
  | [] => []
  | v :: rest => write layout depth v :: writeItems layout depth rest

/-- Write the fields of an object. -/
def writeFields (layout : Layout) (depth : Nat) : Fields → List String
  | [] => []
  | (name, v) :: rest =>
    (nameString name ++ layout.colon ++ write layout depth v) :: writeFields layout depth rest

end

/-- A document without blanks. -/
def compact (v : Value) : String := write compactLayout 0 v

/-- A document with every part on its own line. -/
def indented (v : Value) : String := write indentedLayout 0 v

example : compact (.object [("a", .list [.int 1, .null])]) = "\x7b\"a\":[1,null]\x7d" := by
  decide +kernel

end DomainScout.Json
