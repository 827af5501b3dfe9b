/-!
# Placeholders

A message template is plain text with placeholders in it. A placeholder is a percent sign, a name
in parentheses if its value has one, flags, a width, a precision, a letter for the size that means
nothing, and a letter for the kind of value. Two percent signs stand for one. What is missing at
the end of the text is missing from the placeholder; reading never fails.
-/
namespace DomainScout.Logging

/-- The flags of a placeholder. -/
structure Flags where
  /-- The value stands at the left. -/
  left : Bool
  /-- Numbers that are not negative have a plus sign. -/
  plus : Bool
  /-- Numbers that are not negative have a blank for a sign. -/
  blank : Bool
  /-- The other form of a number is wanted, which tells more. -/
  alternate : Bool
  /-- Numbers are filled up with zeros. -/
  zero : Bool

/-- No flag. -/
def Flags.none : Flags := ⟨false, false, false, false, false⟩

/-- Set the flag of a character, if it is one. -/
def Flags.set? (flags : Flags) (c : Char) : Option Flags :=
  match c with
  | '-' => some { flags with left := true }
  | '+' => some { flags with plus := true }
  | ' ' => some { flags with blank := true }
  | '#' => some { flags with alternate := true }
  | '0' => some { flags with zero := true }
  | _ => .none

/-- A width or a precision. -/
inductive Extent where
  | absent
  | written (n : Nat)
  /-- The next argument tells it. -/
  | argument
  deriving DecidableEq

/-- The name of a value. -/
inductive Label where
  | absent
  | closed (name : List Char)
  /-- The text ends inside the parentheses. -/
  | unclosed

/-- A placeholder as it is written. -/
structure Placeholder where
  label : Label
  flags : Flags
  width : Extent
  precision : Extent
  /-- The letter for the kind of value, unless the text ends before it. -/
  kind : Option Char

/-- A name up to its closing parenthesis, given how many parentheses inside it are open, and what
follows. -/
def readName (depth : Nat) : List Char → Option (List Char × List Char)
  | [] => none
  | c :: rest =>
    if c = ')' then
      match depth with
      | 0 => some ([], rest)
      | outer + 1 => (readName outer rest).map fun (name, after) => (c :: name, after)
    else
      (readName (if c = '(' then depth + 1 else depth) rest).map
        fun (name, after) => (c :: name, after)

/-- A name in parentheses, and what follows. -/
def readLabel (cs : List Char) : Label × List Char :=
  match cs with
  | '(' :: rest =>
    match readName 0 rest with
    | some (name, after) => (.closed name, after)
    | none => (.unclosed, [])
  | _ => (.absent, cs)

/-- Flags, and what follows. -/
def readFlags (flags : Flags) : List Char → Flags × List Char
  | [] => (flags, [])
  | c :: rest =>
    match flags.set? c with
    | some flags => readFlags flags rest
    | none => (flags, c :: rest)

/-- The number that some digits spell. -/
def digitsNumber (digits : List Char) : Nat :=
  digits.foldl (fun n c => n * 10 + (c.toNat - 0x30)) 0

/-- A width or a precision, which is absent without digits, and what follows. -/
def readExtent (cs : List Char) : Extent × List Char :=
  match cs with
  | '*' :: rest => (.argument, rest)
  | _ =>
    let (digits, rest) := cs.span Char.isDigit
    (if digits.isEmpty then .absent else .written (digitsNumber digits), rest)

/-- A precision behind its point, and what follows; a point alone means zero. -/
def readPrecision (cs : List Char) : Extent × List Char :=
  match cs with
  | '.' :: rest =>
    let (precision, after) := readExtent rest
    (if precision = .absent then .written 0 else precision, after)
  | _ => (.absent, cs)

/-- A letter for the size. -/
def isSizeLetter (c : Char) : Bool := c == 'h' || c == 'l' || c == 'L'

/-- Drop one letter for the size. -/
def dropSize : List Char → List Char
  | c :: rest => if isSizeLetter c then rest else c :: rest
  | [] => []

/-- The placeholder behind a percent sign, and what follows. -/
def readPlaceholder (cs : List Char) : Placeholder × List Char :=
  let (label, cs) := readLabel cs
  let (flags, cs) := readFlags .none cs
  let (width, cs) := readExtent cs
  let (precision, cs) := readPrecision cs
  let cs := dropSize cs
  (⟨label, flags, width, precision, cs.head?⟩, cs.tail)

/-- A piece of a template. -/
inductive Piece where
  | plain (c : Char)
  | place (placeholder : Placeholder)

/-- The pieces of the first characters of a template, at most some number of them. -/
def piecesFor : Nat → List Char → List Piece
  | 0, _ => []
  | _, [] => []
  | n + 1, '%' :: '%' :: rest => .plain '%' :: piecesFor n rest
  | n + 1, '%' :: rest =>
    let (placeholder, after) := readPlaceholder rest
    .place placeholder :: piecesFor n after
  | n + 1, c :: rest => .plain c :: piecesFor n rest

/-- The pieces of a template. -/
def pieces (template : String) : List Piece := piecesFor template.length template.toList

end DomainScout.Logging
