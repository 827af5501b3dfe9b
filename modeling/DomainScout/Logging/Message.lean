import DomainScout.Crash
import DomainScout.Logging.Placeholder
import DomainScout.Number.Rounded
import DomainScout.Value.Display

/-!
# Log messages

A message is a template with arguments put into its places. The arguments come one after the
other and each of them has to find a place; a single object that is not empty stands for its
fields, which places pick by name. Without arguments a template stands as it is.

Places are filled from the left, so of several faults the first one counts.
-/
namespace DomainScout.Logging

open Value

/-- An argument that is of the wrong type, is missing, or is left over. -/
def wrongArgument : Crash := .number .wrongType

/-- A placeholder that cannot be read. -/
def unreadablePlace : Crash := .number .unreadable

/-- Where the values of places come from. -/
inductive Source where
  /-- The arguments that are left. -/
  | sequence (values : List Value)
  /-- The fields of an object, and the value that a place gets next. -/
  | fields (all : Fields) (next : Option Value)

namespace Source

/-- The source of some arguments. -/
def ofArguments : List Value → Source
  | [.object (first :: more)] => .fields (first :: more) (some (.object (first :: more)))
  | values => .sequence values

/-- Take the next value. -/
def take : Source → Except Crash (Value × Source)
  | .sequence (v :: rest) => .ok (v, .sequence rest)
  | .fields all (some v) => .ok (v, .fields all none)
  | _ => .error wrongArgument

/-- Put the value of a name next. -/
def pick (name : FieldName) : Source → Except Crash Source
  | .sequence _ => .error wrongArgument
  | .fields all _ =>
    match lookup? name all with
    | some v => .ok (.fields all (some v))
    | none => .error .missingField

/-- Arguments that came one after the other are used up. -/
def isSpent : Source → Bool
  | .sequence values => values.isEmpty
  | .fields _ _ => true

end Source

/-- Put the value that a placeholder names next. -/
def Label.resolve : Label → Source → Except Crash Source
  | .absent, source => .ok source
  | .closed name, source => source.pick (String.ofList name)
  | .unclosed, .fields _ _ => .error unreadablePlace
  | .unclosed, .sequence _ => .error wrongArgument

/-- The greatest width. -/
def maxWidth : Nat := Nat.pow 2 63 - 1

/-- The greatest precision. -/
def maxPrecision : Nat := Nat.pow 2 31 - 1

/-- The integer of an argument that tells a width or a precision. -/
def extentOf (greatest : Nat) : Value → Except Crash Int
  | .bool b => .ok (if b then 1 else 0)
  | .int n => if n.natAbs ≤ greatest then .ok n else .error (.number .outOfRange)
  | _ => .error wrongArgument

/-- A width or a precision: what is written, or what an argument tells. -/
def Extent.resolve (greatest : Nat) : Extent → Source → Except Crash (Option Int × Source)
  | .absent, source => .ok (none, source)
  | .written n, source => if n ≤ greatest then .ok (some n, source) else .error unreadablePlace
  | .argument, source => do
    let (v, source) ← source.take
    return (some (← extentOf greatest v), source)

/-- What a place asks of its value. -/
structure Layout where
  flags : Flags
  width : Nat
  precision : Option Nat

/-- The layout of some flags, a width and a precision. A negative width means a place with its
value at the left, and a negative precision means zero. -/
def Layout.ofExtents (flags : Flags) (width precision : Option Int) : Layout where
  flags := { flags with left := flags.left || width.any (· < 0) }
  width := (width.map Int.natAbs).getD 0
  precision := precision.map Int.toNat

/-- A text in its place. -/
def Layout.textPlace (layout : Layout) (shown : List Char) : List Char :=
  let blanks := List.replicate (layout.width - shown.length) ' '
  if layout.flags.left then shown ++ blanks else blanks ++ shown

/-- A number as it is laid out: a sign, a mark of the base, and digits. -/
structure Numeral where
  sign : List Char
  mark : List Char
  digits : List Char

/-- The sign of a number. -/
def Flags.sign (flags : Flags) (negative : Bool) : List Char :=
  if negative then ['-'] else if flags.plus then ['+'] else if flags.blank then [' '] else []

/-- A number in its place. Zeros that fill it up stand before the digits. -/
def Layout.numberPlace (layout : Layout) (numeral : Numeral) : List Char :=
  let front := numeral.sign ++ numeral.mark
  if layout.flags.zero && !layout.flags.left then
    front ++ padded (layout.width - front.length) numeral.digits
  else layout.textPlace (front ++ numeral.digits)

/-- The first characters of a text, as many as the precision says. -/
def Layout.cut (layout : Layout) (shown : String) : List Char :=
  match layout.precision with
  | some count => shown.toList.take count
  | none => shown.toList

/-- An integer in its place, in some base with its mark. -/
def Layout.integerPlace (layout : Layout) (base : Nat) (mark : List Char) (n : Int) : List Char :=
  layout.numberPlace
    { sign := layout.flags.sign (n < 0)
      mark := if layout.flags.alternate then mark else []
      digits := padded (layout.precision.getD 0) (Nat.toDigits base n.natAbs) }

/-- The places behind a point that nobody asked to change. -/
def defaultPrecision : Nat := 6

/-- A real number in its place. -/
def Layout.realPlace (layout : Layout) (form : RoundedForm) (x : Binary64) : List Char :=
  match x.rounded form layout.flags.alternate (layout.precision.getD defaultPrecision) with
  | '-' :: digits => layout.numberPlace ⟨layout.flags.sign true, [], digits⟩
  | digits => layout.numberPlace ⟨layout.flags.sign false, [], digits⟩

/-- The integer part of an argument that is a number. -/
def wholeOf (v : Value) : Except Crash Int :=
  match v with
  | .text _ | .ragged _ => .error wrongArgument
  | v => v.toInt.mapError .number

/-- The integer of an argument that is one. -/
def integerOf : Value → Except Crash Int
  | .int n => .ok n
  | .bool b => .ok (if b then 1 else 0)
  | _ => .error wrongArgument

/-- The real number of an argument that is a number. -/
def realOf (v : Value) : Except Crash Binary64 :=
  match v with
  | .text _ | .ragged _ => .error wrongArgument
  | v => v.toReal.mapError .number

/-- The character of an argument: a text of one character, or its code point. -/
def characterOf : Value → Except Crash Char
  | .text s =>
    match s.toList with
    | [c] => .ok c
    | _ => .error wrongArgument
  | .ragged [glyph] => .ok glyph.shown
  | v => do
    let n ← integerOf v
    if 0 ≤ n ∧ n < 0x110000 then return (Text.Glyph.ofCode n.toNat).shown
    else throw (.number .outOfRange)

/-- Letters in upper case. -/
def inUpperCase (cs : List Char) : List Char := cs.map Char.toUpper

/-- A value in a place of some kind. -/
def Layout.place (layout : Layout) (kind : Char) (v : Value) : Except Crash (List Char) :=
  match kind with
  | 's' => .ok (layout.textPlace (layout.cut v.display))
  | 'r' => .ok (layout.textPlace (layout.cut v.literal))
  | 'a' => .ok (layout.textPlace (layout.cut v.asciiLiteral))
  | 'c' => (characterOf v).map fun c => layout.textPlace [c]
  | 'd' | 'i' | 'u' => (wholeOf v).map (layout.integerPlace 10 [])
  | 'o' => (integerOf v).map (layout.integerPlace 8 ['0', 'o'])
  | 'x' => (integerOf v).map (layout.integerPlace 16 ['0', 'x'])
  | 'X' => (integerOf v).map fun n => inUpperCase (layout.integerPlace 16 ['0', 'x'] n)
  | 'f' => (realOf v).map (layout.realPlace .places)
  | 'F' => (realOf v).map fun x => inUpperCase (layout.realPlace .places x)
  | 'e' => (realOf v).map (layout.realPlace .power)
  | 'E' => (realOf v).map fun x => inUpperCase (layout.realPlace .power x)
  | 'g' => (realOf v).map (layout.realPlace .significant)
  | 'G' => (realOf v).map fun x => inUpperCase (layout.realPlace .significant x)
  | _ => .error unreadablePlace

/-- What stands in a place. -/
def Placeholder.fill (placeholder : Placeholder) (source : Source) :
    Except Crash (List Char × Source) := do
  let source ← placeholder.label.resolve source
  let (width, source) ← placeholder.width.resolve maxWidth source
  let (precision, source) ← placeholder.precision.resolve maxPrecision source
  match placeholder.kind with
  | none => throw unreadablePlace
  | some kind =>
    let (v, source) ← source.take
    return (← (Layout.ofExtents placeholder.flags width precision).place kind v, source)

/-- The text of some pieces. -/
def fill : List Piece → Source → Except Crash (List Char)
  | [], source => if source.isSpent then .ok [] else .error wrongArgument
  | .plain c :: rest, source => (c :: ·) <$> fill rest source
  | .place placeholder :: rest, source => do
    let (filled, source) ← placeholder.fill source
    return filled ++ (← fill rest source)

/-- The text of a message. -/
def messageText (template : String) (arguments : List Value) : Except Crash String :=
  if arguments.isEmpty then .ok template
  else String.ofList <$> fill (pieces template) (.ofArguments arguments)

example : (messageText "%-4s|%+.2e|%#06x" [.text "ab", .int 1234, .int 255]).toOption
    = some "ab  |+1.23e+03|0x00ff" := by decide +kernel

end DomainScout.Logging
