import DomainScout.Json.Reader
import DomainScout.Text.Utf8

/-!
# JSON from octets

A document may come in UTF-8, UTF-16 or UTF-32. A byte order mark decides; without one, the
zeros among the first four octets show the width and the order of the units, since a document
starts with ASCII characters. Octets that do not decode hold no document, but halves of pairs
count as decoded.
-/
namespace DomainScout.Json

open Text

/-- The order of the octets in a unit. -/
inductive ByteOrder where
  | little
  | big

/-- The value of the octets of one unit. -/
def ByteOrder.value (order : ByteOrder) (octets : List UInt8) : Nat :=
  let ordered := match order with
    | .little => octets.reverse
    | .big => octets
  ordered.foldl (fun n octet => n * 256 + octet.toNat) 0

/-- The units of two octets, which must come out even. -/
def unitsOfTwo? (order : ByteOrder) : List UInt8 → Option (List Nat)
  | [] => some []
  | a :: b :: rest => (unitsOfTwo? order rest).map (order.value [a, b] :: ·)
  | _ => none

/-- The units of four octets, which must come out even. -/
def unitsOfFour? (order : ByteOrder) : List UInt8 → Option (List Nat)
  | [] => some []
  | a :: b :: c :: d :: rest => (unitsOfFour? order rest).map (order.value [a, b, c, d] :: ·)
  | _ => none

/-- Glyphs from UTF-16 units, with those so far in reverse. -/
def glyphsOf16 : Glyphs → List Nat → Glyphs
  | sofar, [] => sofar.reverse
  | sofar, [n] => (.ofCode n :: sofar).reverse
  | sofar, n :: next :: rest =>
    if isHighUnit n && isLowUnit next then glyphsOf16 (.ofCode (pairedCode n next) :: sofar) rest
    else glyphsOf16 (.ofCode n :: sofar) (next :: rest)

/-- Glyphs from UTF-32 units. -/
def glyphsOf32? (units : List Nat) : Option Glyphs :=
  units.mapM fun n => if n < 0x110000 then some (.ofCode n) else none

/-- How a document is encoded, and how many octets of mark precede it. -/
inductive Encoding where
  | utf8
  | utf16 (order : ByteOrder)
  | utf32 (order : ByteOrder)

/-- Read the encoding off the first octets, and drop a byte order mark. -/
def detect (octets : List UInt8) : Encoding × List UInt8 :=
  match octets with
  | 0x00 :: 0x00 :: 0xFE :: 0xFF :: rest => (.utf32 .big, rest)
  | 0xFF :: 0xFE :: 0x00 :: 0x00 :: rest => (.utf32 .little, rest)
  | 0xFE :: 0xFF :: rest => (.utf16 .big, rest)
  | 0xFF :: 0xFE :: rest => (.utf16 .little, rest)
  | 0xEF :: 0xBB :: 0xBF :: rest => (.utf8, rest)
  | a :: b :: c :: d :: _ =>
    (if a = 0 then (if b = 0 then .utf32 .big else .utf16 .big)
      else if b = 0 then (if c = 0 ∧ d = 0 then .utf32 .little else .utf16 .little)
      else .utf8, octets)
  | [a, b] => (if a = 0 then .utf16 .big else if b = 0 then .utf16 .little else .utf8, octets)
  | _ => (.utf8, octets)

/-- The glyphs of a document. -/
def decode? (octets : List UInt8) : Option Glyphs :=
  match detect octets with
  | (.utf8, body) => Utf8.glyphs? body
  | (.utf16 order, body) => (unitsOfTwo? order body).map (glyphsOf16 [])
  | (.utf32 order, body) => unitsOfFour? order body >>= glyphsOf32?

/-- The value of a document in octets. -/
def parseOctets? (octets : List UInt8) : Option Value := decode? octets >>= parseGlyphs?

end DomainScout.Json
