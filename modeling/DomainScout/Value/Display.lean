import DomainScout.Text.Printable
import DomainScout.Number.Shortest
import DomainScout.Value.Basic

/-!
# Values as text

A value has two texts. Its display form is what a person reads: a text displays as itself. Its
literal form is what stands inside lists and objects: there a text is quoted, and what is not
printable is escaped. Apart from texts the two forms agree. A form in ASCII escapes every other
character of the literal form, too.
-/
namespace DomainScout.Value

open Text

/-- The lower-case digits of a number in base sixteen, at least `width` of them. -/
def hexText (width n : Nat) : List Char := padded width (Nat.toDigits 16 n)

/-- A character as an escape. -/
def escape (code : Nat) : List Char :=
  if code ≤ 0xFF then '\\' :: 'x' :: hexText 2 code
  else if code ≤ 0xFFFF then '\\' :: 'u' :: hexText 4 code
  else '\\' :: 'U' :: hexText 8 code

/-- A character inside quotes. -/
def quotedChar (quote c : Char) : List Char :=
  if c = quote ∨ c = '\\' then ['\\', c]
  else if c = '\t' then ['\\', 't']
  else if c = '\n' then ['\\', 'n']
  else if c = '\r' then ['\\', 'r']
  else if isPrintable c then [c]
  else escape c.toNat

/-- A glyph inside quotes. -/
def quotedGlyph (quote : Char) : Glyph → List Char
  | .char c => quotedChar quote c
  | .half unit => escape unit

/-- Glyphs in quotes: in double quotes if they hold single ones only. -/
def quotedGlyphs (glyphs : Glyphs) : String :=
  let quote := if glyphs.contains (.char '\'') && !glyphs.contains (.char '"') then '"' else '\''
  String.ofList (quote :: glyphs.flatMap (quotedGlyph quote) ++ [quote])

/-- A text in quotes. -/
def quoted (s : String) : String := quotedGlyphs (.ofChars s.toList)

/-- A name in quotes. -/
def quotedName : FieldName → String
  | .plain name => quoted name
  | .ragged glyphs => quotedGlyphs glyphs

/-- A truth value as text. -/
def boolText (b : Bool) : String := if b then "True" else "False"

/-- Parts with a comma and a space between them. -/
def joined (parts : List String) : String := ", ".intercalate parts

mutual

/-- The text of a value where it stands inside another. -/
def literal : Value → String
  | null => "None"
  | bool b => boolText b
  | int n => toString n
  | real x => x.text
  | text s => quoted s
  | ragged glyphs => quotedGlyphs glyphs
  | list items => "[" ++ joined (literals items) ++ "]"
  | object fields => "\x7b" ++ joined (fieldLiterals fields) ++ "\x7d"

/-- The literal forms of the items of a list. -/
def literals : List Value → List String
  | [] => []
  | v :: rest => literal v :: literals rest

/-- The literal forms of the fields of an object. -/
def fieldLiterals : Fields → List String
  | [] => []
  | (name, v) :: rest => (quotedName name ++ ": " ++ literal v) :: fieldLiterals rest

end

/-- The text of a value on its own. -/
def display : Value → String
  | text s => s
  | ragged glyphs => glyphs.shown
  | v => literal v

/-- The literal form of a value in ASCII. -/
def asciiLiteral (v : Value) : String :=
  String.ofList ((literal v).toList.flatMap fun c =>
    if c.toNat < 0x80 then [c] else escape c.toNat)

example : display (list [text "a'b", null, int 5]) = "[\"a'b\", None, 5]" := by decide +kernel

end DomainScout.Value
