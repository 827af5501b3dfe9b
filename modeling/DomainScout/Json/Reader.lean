import DomainScout.Number.Reading
import DomainScout.Value.Basic

/-!
# Reading JSON

Documents are read strictly: blanks are space, tab, line feed and carriage return, controls do
not stand inside strings, and nothing follows the value. Beyond the standard, `NaN`, `Infinity`
and `-Infinity` are numbers. A number with a fraction or an exponent is real, any other is an
exact integer of limited length. Of two fields with one name the later value counts. Half a pair
may stand inside strings, spelled by an escape or as it is; only two escapes that belong together
join to a character.

Every step of the reader consumes a glyph, so the length of the document bounds its work.
-/
namespace DomainScout.Json

open Text

/-- A blank between tokens. -/
def isSpace (c : Char) : Bool := c == ' ' || c == '\t' || c == '\n' || c == '\r'

/-- Drop the blanks in front. -/
def skipSpace (gs : Glyphs) : Glyphs := gs.dropWhile (·.passes isSpace)

/-- Four digits in base sixteen, and what follows. -/
def readUnit? : Glyphs → Option (Nat × Glyphs)
  | .char a :: .char b :: .char c :: .char d :: rest => do
    let a ← hexValue? a
    let b ← hexValue? b
    let c ← hexValue? c
    let d ← hexValue? d
    return (((a * 16 + b) * 16 + c) * 16 + d, rest)
  | _ => none

/-- A UTF-16 unit that opens a pair. -/
def isHighUnit (n : Nat) : Bool := 0xD800 ≤ n && n ≤ 0xDBFF

/-- A UTF-16 unit that closes a pair. -/
def isLowUnit (n : Nat) : Bool := 0xDC00 ≤ n && n ≤ 0xDFFF

/-- The code point of a pair of units. -/
def pairedCode (high low : Nat) : Nat := 0x10000 + (high - 0xD800) * 1024 + (low - 0xDC00)

/-- The glyph that a unit escape stands for, a second escape joined to it where the two are a
pair, and what follows. -/
def readUnitEscape? (gs : Glyphs) : Option (Glyph × Glyphs) := do
  let (unit, rest) ← readUnit? gs
  if isHighUnit unit then
    match rest with
    | .char '\\' :: .char 'u' :: more =>
      match readUnit? more with
      | some (low, after) =>
        if isLowUnit low then return (.ofCode (pairedCode unit low), after)
        return (.ofCode unit, rest)
      | none => none
    | _ => return (.ofCode unit, rest)
  else return (.ofCode unit, rest)

/-- The glyph that an escape stands for, and what follows. -/
def readEscape? : Glyphs → Option (Glyph × Glyphs)
  | .char c :: rest =>
    match c with
    | '"' => some (.char '"', rest)
    | '\\' => some (.char '\\', rest)
    | '/' => some (.char '/', rest)
    | 'b' => some (.char '\x08', rest)
    | 'f' => some (.char '\x0c', rest)
    | 'n' => some (.char '\n', rest)
    | 'r' => some (.char '\r', rest)
    | 't' => some (.char '\t', rest)
    | 'u' => readUnitEscape? rest
    | _ => none
  | _ => none

/-- A control, which only an escape can put into a string. -/
def isControl (c : Char) : Bool := c.toNat < 0x20

/-- The rest of a string after its opening quote, with the glyphs so far in reverse. -/
def readString? : Nat → Glyphs → Glyphs → Option (Glyphs × Glyphs)
  | 0, _, _ => none
  | _ + 1, _, [] => none
  | fuel + 1, sofar, g :: rest =>
    if g = .char '"' then some (sofar.reverse, rest)
    else if g = .char '\\' then
      match readEscape? rest with
      | some (escaped, after) => readString? fuel (escaped :: sofar) after
      | none => none
    else if g.passes isControl then none
    else readString? fuel (g :: sofar) rest

/-- A run of ASCII digits, and what follows. -/
def spanDigits : Glyphs → List Char × Glyphs
  | .char c :: rest =>
    if c.isDigit then
      let (digits, after) := spanDigits rest
      (c :: digits, after)
    else ([], .char c :: rest)
  | gs => ([], gs)

/-- The whole part of a number: zero, or digits that do not start with zero. -/
def readWhole? (gs : Glyphs) : Option (List Char × Glyphs) :=
  match gs with
  | .char '0' :: rest => some (['0'], rest)
  | _ =>
    let (digits, rest) := spanDigits gs
    if digits.isEmpty then none else some (digits, rest)

/-- A fraction with its point, if digits follow the point. -/
def readFraction (gs : Glyphs) : List Char × Glyphs :=
  match gs with
  | .char '.' :: more =>
    let (digits, rest) := spanDigits more
    if digits.isEmpty then ([], gs) else ('.' :: digits, rest)
  | _ => ([], gs)

/-- An exponent with its mark and sign, if digits follow. -/
def readPower (gs : Glyphs) : List Char × Glyphs :=
  match gs with
  | .char mark :: more =>
    if mark == 'e' || mark == 'E' then
      let (sign, after) := match more with
        | .char '+' :: after => (['+'], after)
        | .char '-' :: after => (['-'], after)
        | _ => ([], more)
      let (digits, rest) := spanDigits after
      if digits.isEmpty then ([], gs) else (mark :: sign ++ digits, rest)
    else ([], gs)
  | _ => ([], gs)

/-- A number, and what follows. -/
def readNumber? (gs : Glyphs) : Option (Value × Glyphs) := do
  let (sign, rest) := match gs with
    | .char '-' :: more => (['-'], more)
    | _ => ([], gs)
  let (whole, rest) ← readWhole? rest
  let (fraction, rest) := readFraction rest
  let (power, rest) := readPower rest
  let written := sign ++ whole ++ fraction ++ power
  if fraction.isEmpty && power.isEmpty then return (.int (← Number.readInt? written), rest)
  else return (.real (← Number.readReal? written), rest)

/-- Take a word, if the text starts with it. -/
def readWord? (word : String) (v : Value) (gs : Glyphs) : Option (Value × Glyphs) :=
  ((Glyphs.ofChars word.toList).isPrefixOf? gs).map fun rest => (v, rest)

/-- A value that is neither a string, a list nor an object, and what follows. -/
def readAtom? (gs : Glyphs) : Option (Value × Glyphs) :=
  readWord? "null" .null gs
    <|> readWord? "true" (.bool true) gs
    <|> readWord? "false" (.bool false) gs
    <|> readWord? "NaN" (.real .nan) gs
    <|> readWord? "Infinity" (.real (.infinite false)) gs
    <|> readWord? "-Infinity" (.real (.infinite true)) gs
    <|> readNumber? gs

mutual

/-- A value with no blanks in front, and what follows. -/
def readValue? : Nat → Glyphs → Option (Value × Glyphs)
  | 0, _ => none
  | fuel + 1, .char '"' :: rest =>
    (readString? fuel [] rest).map fun (glyphs, after) => (.ofGlyphs glyphs, after)
  | fuel + 1, .char '[' :: rest =>
    match skipSpace rest with
    | .char ']' :: after => some (.list [], after)
    | items => readItems? fuel [] items
  | fuel + 1, .char '\x7b' :: rest =>
    match skipSpace rest with
    | .char '\x7d' :: after => some (.object [], after)
    | fields => readFields? fuel [] fields
  | _ + 1, gs => readAtom? gs

/-- The items of a list from the next one on, with those so far in reverse. -/
def readItems? : Nat → List Value → Glyphs → Option (Value × Glyphs)
  | 0, _, _ => none
  | fuel + 1, sofar, gs =>
    match readValue? fuel gs with
    | none => none
    | some (v, rest) =>
      match skipSpace rest with
      | .char ',' :: more => readItems? fuel (v :: sofar) (skipSpace more)
      | .char ']' :: after => some (.list (v :: sofar).reverse, after)
      | _ => none

/-- The fields of an object from the next one on, with those so far in reverse. -/
def readFields? : Nat → Fields → Glyphs → Option (Value × Glyphs)
  | 0, _, _ => none
  | fuel + 1, sofar, .char '"' :: rest =>
    match readString? fuel [] rest with
    | none => none
    | some (glyphs, after) =>
      match skipSpace after with
      | .char ':' :: more =>
        match readValue? fuel (skipSpace more) with
        | none => none
        | some (v, left) =>
          let sofar := (.ofGlyphs glyphs, v) :: sofar
          match skipSpace left with
          | .char ',' :: next => readFields? fuel sofar (skipSpace next)
          | .char '\x7d' :: after => some (.object (Value.ofPairs sofar.reverse), after)
          | _ => none
      | _ => none
  | _ + 1, _, _ => none

end

/-- The value of a document of glyphs. -/
def parseGlyphs? (gs : Glyphs) : Option Value :=
  match readValue? (2 * gs.length + 2) (skipSpace gs) with
  | some (v, rest) => if (skipSpace rest).isEmpty then some v else none
  | none => none

/-- The value of a document. -/
def parse? (cs : List Char) : Option Value := parseGlyphs? (.ofChars cs)

end DomainScout.Json
