import DomainScout.Text.Glyph

/-!
# UTF-8

Decoding runs one octet at a time. What stands between characters is either nothing or an
unfinished character, with the range that its next octet must lie in. An octet outside the range
ends the unfinished character as one malformed part and is then read afresh, so every maximal
malformed part is reported once.

Halves of pairs are malformed as a rule. A lenient reader takes them as code points of their own.
-/
namespace DomainScout.Text.Utf8

/-- A character whose last octets are still owed. -/
structure Partial where
  /-- How many octets are owed, less one. -/
  further : Nat
  /-- The least value of the next octet. -/
  low : Nat
  /-- The greatest value of the next octet. -/
  high : Nat
  /-- The bits read so far. -/
  bits : Nat

/-- What a sequence of octets decodes to: code points, and `none` for each malformed part. -/
abbrev Decoded := List (Option Nat)

/-- Read an octet that starts a character. -/
def start (lenient : Bool) (octet : Nat) : Decoded × Option Partial :=
  if octet ≤ 0x7F then ([some octet], none)
  else if 0xC2 ≤ octet ∧ octet ≤ 0xDF then ([], some ⟨0, 0x80, 0xBF, octet - 0xC0⟩)
  else if octet = 0xE0 then ([], some ⟨1, 0xA0, 0xBF, 0⟩)
  else if octet = 0xED then ([], some ⟨1, 0x80, if lenient then 0xBF else 0x9F, 0x0D⟩)
  else if 0xE1 ≤ octet ∧ octet ≤ 0xEF then ([], some ⟨1, 0x80, 0xBF, octet - 0xE0⟩)
  else if octet = 0xF0 then ([], some ⟨2, 0x90, 0xBF, 0⟩)
  else if 0xF1 ≤ octet ∧ octet ≤ 0xF3 then ([], some ⟨2, 0x80, 0xBF, octet - 0xF0⟩)
  else if octet = 0xF4 then ([], some ⟨2, 0x80, 0x8F, 4⟩)
  else ([none], none)

/-- Read one octet: what it completes, and the character it leaves unfinished. -/
def step (lenient : Bool) : Option Partial → Nat → Decoded × Option Partial
  | none, octet => start lenient octet
  | some p, octet =>
    if p.low ≤ octet ∧ octet ≤ p.high then
      let bits := p.bits * 64 + (octet - 0x80)
      match p.further with
      | 0 => ([some bits], none)
      | further + 1 => ([], some ⟨further, 0x80, 0xBF, bits⟩)
    else
      let (decoded, next) := start lenient octet
      (none :: decoded, next)

/-- What has been decoded so far, last first, and the character left unfinished. -/
abbrev Progress := Decoded × Option Partial

/-- Take in one octet. -/
def Progress.feed (lenient : Bool) (progress : Progress) (octet : UInt8) : Progress :=
  let (decoded, unfinished) := step lenient progress.2 octet.toNat
  (decoded.reverse ++ progress.1, unfinished)

/-- Decode octets, reporting each maximal malformed part as `none`. -/
def decode (lenient : Bool) (octets : List UInt8) : Decoded :=
  let (decoded, unfinished) := octets.foldl (Progress.feed lenient) ([], none)
  (if unfinished.isSome then none :: decoded else decoded).reverse

/-- Decode octets, showing each maximal malformed part as the replacement character. -/
def decodeLossy (octets : List UInt8) : String :=
  String.ofList ((decode false octets).map fun code => Char.ofNat (code.getD 0xFFFD))

/-- Decode octets that hold no malformed part, halves of pairs apart. -/
def glyphs? (octets : List UInt8) : Option Glyphs :=
  (decode true octets).mapM fun code => code.map Glyph.ofCode

/-- The octets of a text. -/
def encode (s : String) : List UInt8 := s.toUTF8.toList

example : decodeLossy [0xC3, 0x28] = "\uFFFD(" := by decide +kernel

example : decodeLossy [0xF4, 0x90, 0x80, 0x80] = "\uFFFD\uFFFD\uFFFD\uFFFD" := by decide +kernel

example : decodeLossy [0xE2, 0x82, 0x82, 0xF0, 0x9F, 0x98] = "₂\uFFFD" := by decide +kernel

end DomainScout.Text.Utf8
