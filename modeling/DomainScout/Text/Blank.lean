import DomainScout.Text.CodePoint

/-!
# Blank characters and trimming

Blank characters separate and pad the texts that clients send: the white space of Unicode
together with the four information separators U+001C to U+001F. Trimming removes them from both
ends, and a text that holds nothing else counts as missing.
-/
namespace DomainScout.Text

/-- The blank characters, as code points. -/
def blankRanges : CodeRanges :=
  [(0x09, 0x0D), (0x1C, 0x20), (0x85, 0x85), (0xA0, 0xA0), (0x1680, 0x1680), (0x2000, 0x200A),
   (0x2028, 0x2029), (0x202F, 0x202F), (0x205F, 0x205F), (0x3000, 0x3000)]

/-- White space, or an information separator. -/
def isBlank (c : Char) : Bool := blankRanges.covers c.toNat

/-- Core's white space is blank. -/
theorem isBlank_of_isWhitespace (c : Char) (white : c.isWhitespace = true) : isBlank c = true := by
  simp only [Char.isWhitespace, Bool.or_eq_true, decide_eq_true_eq] at white
  rcases white with ((rfl | rfl) | rfl) | rfl <;> decide

/-- Drop the longest run at the end whose characters satisfy `p`. -/
def dropEndWhile (p : Char → Bool) (cs : List Char) : List Char :=
  (cs.reverse.dropWhile p).reverse

/-- Drop the characters satisfying `p` from both ends. -/
def trimBoth (p : Char → Bool) (cs : List Char) : List Char :=
  dropEndWhile p (cs.dropWhile p)

/-- Drop the blanks around a text. -/
def trim (s : String) : String := String.ofList (trimBoth isBlank s.toList)

end DomainScout.Text
