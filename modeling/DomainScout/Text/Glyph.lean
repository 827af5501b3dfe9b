/-!
# Texts with broken pairs

Documents spell characters beyond the first 65536 as two halves, and nothing keeps them from
spelling one half without the other. A text with such a half in it is no sequence of characters,
so it is kept as a sequence of glyphs, and a person sees the replacement character in place of
each half.
-/
namespace DomainScout.Text

/-- A character, or one half of a pair. -/
inductive Glyph where
  | char (c : Char)
  | half (unit : Nat)
  deriving DecidableEq

/-- A text that may have broken pairs. -/
abbrev Glyphs := List Glyph

/-- The glyph of a code point. -/
def Glyph.ofCode (code : Nat) : Glyph :=
  if valid : code.isValidChar then .char (Char.ofNatAux code valid) else .half code

/-- The character of a whole glyph. -/
def Glyph.char? : Glyph → Option Char
  | .char c => some c
  | .half _ => none

/-- A character that passes a test. -/
def Glyph.passes (test : Char → Bool) (glyph : Glyph) : Bool := glyph.char?.any test

/-- What a person sees of a glyph. -/
def Glyph.shown (glyph : Glyph) : Char := glyph.char?.getD '\uFFFD'

namespace Glyphs

/-- The glyphs of a text. -/
def ofChars (cs : List Char) : Glyphs := cs.map .char

/-- The text without broken pairs that glyphs make up. -/
def text? (glyphs : Glyphs) : Option String := (glyphs.mapM Glyph.char?).map String.ofList

/-- What a person sees of a text. -/
def shown (glyphs : Glyphs) : String := String.ofList (glyphs.map Glyph.shown)

end Glyphs

theorem Glyph.ofCode_toNat (c : Char) : Glyph.ofCode c.toNat = .char c := by
  have valid : c.toNat.isValidChar := c.valid
  rw [Glyph.ofCode, dif_pos valid]
  exact congrArg Glyph.char (Char.ext rfl)

end DomainScout.Text
