import DomainScout.Text.Digit
import DomainScout.Number.Binary64

/-!
# Reading numbers

A written number may have blanks around it, a sign, digits of any script, and single underscores
between digits. Real numbers may also have a fraction and an exponent, and may be spelled
`inf`, `infinity` or `nan` in any letter case. Integers are read exactly, up to a limit on their
length; reals are rounded to binary64.
-/
namespace DomainScout.Number

open Text

/-- The characters of a number without the blanks around it. -/
def unpad (cs : List Char) : List Char := trimBoth isNumberBlank cs

/-- Take a sign: whether it was a minus, and what follows. -/
def readSign : List Char → Bool × List Char
  | '+' :: rest => (false, rest)
  | '-' :: rest => (true, rest)
  | cs => (false, cs)

/-- The next character is a digit. -/
def digitNext : List Char → Bool
  | [] => false
  | c :: _ => (digitValue c).isSome

/-- The digits that follow, given whether a digit stands before them, and what is left. -/
def readDigitsAfter (afterDigit : Bool) : List Char → List Nat × List Char
  | [] => ([], [])
  | c :: rest =>
    match digitValue c with
    | some d =>
      let (digits, left) := readDigitsAfter true rest
      (d :: digits, left)
    | none =>
      if c == '_' && afterDigit && digitNext rest then readDigitsAfter false rest
      else ([], c :: rest)

/-- A longest run of digits with single underscores between them, and what is left. -/
def readDigits (cs : List Char) : List Nat × List Char := readDigitsAfter false cs

/-- The most digits that an integer may be written with. -/
def maxIntegerDigits : Nat := 4300

/-- Read an integer. -/
def readInt? (cs : List Char) : Option Int :=
  let (negative, rest) := readSign (unpad cs)
  let (digits, left) := readDigits rest
  if left.isEmpty && !digits.isEmpty && digits.length ≤ maxIntegerDigits then
    some (Binary64.signed negative (digitsValue digits))
  else none

/-- The number nearest to `± digits · 10 ^ exponent`. Magnitudes that are certainly out of range
are settled by the number of digits alone. -/
def ofScientific (negative : Bool) (digits : List Nat) (exponent : Int) : Binary64 :=
  let significant := digits.dropWhile (· == 0)
  let top := (significant.length : Int) + exponent
  if significant.isEmpty ∨ top < -400 then .ofRatio negative 0 1
  else if 400 < top then .infinite negative
  else .ofRatio negative (digitsValue significant * Nat.pow 10 exponent.toNat) (Nat.pow 10 (-exponent).toNat)

/-- An exponent with its mark: its value, and what follows; without a mark it is zero. -/
def readExponent (cs : List Char) : Int × List Char :=
  match cs with
  | e :: rest =>
    if e == 'e' || e == 'E' then
      let (negative, after) := readSign rest
      let (digits, left) := readDigits after
      if digits.isEmpty then (0, cs) else (Binary64.signed negative (digitsValue digits), left)
    else (0, cs)
  | [] => (0, [])

/-- Digits, a fraction and an exponent, and nothing else. -/
def readMagnitude? (negative : Bool) (cs : List Char) : Option Binary64 :=
  let (whole, rest) := readDigits cs
  let (fraction, rest) := match rest with
    | '.' :: more => readDigits more
    | _ => ([], rest)
  let (exponent, left) := readExponent rest
  if left.isEmpty && !(whole.isEmpty && fraction.isEmpty) then
    some (ofScientific negative (whole ++ fraction) (exponent - fraction.length))
  else none

/-- Read a real number. -/
def readReal? (cs : List Char) : Option Binary64 :=
  let (negative, rest) := readSign (unpad cs)
  let word := String.ofList (rest.map Char.toLower)
  if word = "inf" ∨ word = "infinity" then some (.infinite negative)
  else if word = "nan" then some .nan
  else readMagnitude? negative rest

end DomainScout.Number
