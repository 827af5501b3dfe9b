import DomainScout.Text.Digit
import DomainScout.Text.Utf8

/-!
# Percent-encoding

A text inside a URL keeps the unreserved characters and writes every other octet of its UTF-8
form as `%XX`. In the values of a form a space is written as a plus sign. A component that is
encoded already, at least in part, keeps the escapes that it has and the characters that may stand
in it.
-/
namespace DomainScout.Text

/-- A letter, a digit, or one of `-`, `.`, `_`, `~`. -/
def isUnreserved (c : Char) : Bool := c.isAlphanum || c == '-' || c == '.' || c == '_' || c == '~'

/-- A number below sixteen as an upper-case digit. -/
def hexDigit (n : Nat) : Char := if n < 10 then Char.ofNat (0x30 + n) else Char.ofNat (0x37 + n)

/-- One octet as `%XX`. -/
def percentOctet (octet : UInt8) : List Char :=
  ['%', hexDigit (octet.toNat / 16), hexDigit (octet.toNat % 16)]

/-- A character as the octets of its UTF-8 form. -/
def percentChar (c : Char) : List Char := (Utf8.encode (String.singleton c)).flatMap percentOctet

/-- A text as it stands in a URL component. -/
def percentEncode (s : String) : String :=
  String.ofList (s.toList.flatMap fun c => if isUnreserved c then [c] else percentChar c)

/-- A text as it stands among the values of a form. -/
def formEncode (s : String) : String :=
  String.ofList (s.toList.flatMap fun c =>
    if isUnreserved c then [c] else if c = ' ' then ['+'] else percentChar c)

/-- The octet that two digits stand for. -/
def octetOf? (high low : Char) : Option UInt8 := do
  return (← hexValue? high) * 16 + (← hexValue? low) |>.toUInt8

/-- A component in which unsafe characters are encoded and escapes are kept. -/
def quote (safe : Char → Bool) : List Char → List Char
  | [] => []
  | c :: rest =>
    match c, rest with
    | '%', high :: low :: after =>
      if (octetOf? high low).isSome then '%' :: high :: low :: quote safe after
      else (if safe '%' then ['%'] else percentChar '%') ++ quote safe (high :: low :: after)
    | c, rest => (if isUnreserved c || safe c then [c] else percentChar c) ++ quote safe rest

/-- The octets of a component, its escapes resolved. -/
def unquotedOctets : List Char → List UInt8
  | [] => []
  | c :: rest =>
    match c, rest with
    | '%', high :: low :: after =>
      match octetOf? high low with
      | some octet => octet :: unquotedOctets after
      | none => Utf8.encode "%" ++ unquotedOctets (high :: low :: after)
    | c, rest => Utf8.encode (String.singleton c) ++ unquotedOctets rest

/-- A component with its escapes resolved, each malformed part replaced. -/
def unquote (s : String) : String := Utf8.decodeLossy (unquotedOctets s.toList)

example : percentEncode "http://a.com\n" = "http%3A%2F%2Fa.com%0A" := by decide +kernel

example : String.ofList (quote (· == '/') "/a b%2f%".toList) = "/a%20b%2f%25" := by decide +kernel

end DomainScout.Text
