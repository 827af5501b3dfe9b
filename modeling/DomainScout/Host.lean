import DomainScout.Text.Blank
import DomainScout.Text.Case
import DomainScout.Value.Basic

/-!
# Host names

Clients name a domain in many ways: with blanks around it, as a URL with a scheme, a port, a path
or a query, with dots around it and in any letter case. Reduction drops all of that and keeps the
host in lower case. Only a dotted name of ASCII letters, digits, dots and hyphens is a host.
-/
namespace DomainScout.Host

open Text

/-- The text is no host name. -/
structure Invalid where
  deriving DecidableEq

/-- What a client is told. -/
def Invalid.message (_ : Invalid) : String := "Invalid domain"

/-- The letter in either case. -/
def letter (lowercase c : Char) : Bool := c.toLower == lowercase

/-- The letter `s` in any case, the long form included. -/
def letterS (c : Char) : Bool := letter 's' c || c == 'ſ'

/-- What follows a start whose characters pass the tests one by one. -/
def afterMatch? : List (Char → Bool) → List Char → Option (List Char)
  | [], rest => some rest
  | _ :: _, [] => none
  | test :: tests, c :: rest => if test c then afterMatch? tests rest else none

/-- The tests for `http` in any case. -/
def schemeTests : List (Char → Bool) := [letter 'h', letter 't', letter 't', letter 'p']

/-- The tests for `://`. -/
def schemeEndTests : List (Char → Bool) := [(· == ':'), (· == '/'), (· == '/')]

/-- Drop `http://` or `https://` in front, in any letter case. -/
def dropScheme (cs : List Char) : List Char :=
  ((afterMatch? (schemeTests ++ schemeEndTests) cs).or
    (afterMatch? (schemeTests ++ letterS :: schemeEndTests) cs)).getD cs

/-- A character that ends the host inside a URL. -/
def endsHost (c : Char) : Bool := c == '/' || c == '?' || c == '#' || c == ':'

/-- A dot. -/
def isDot (c : Char) : Bool := c == '.'

/-- A character of a host in lower case. -/
def isHostChar (c : Char) : Bool := ('a' ≤ c && c ≤ 'z') || c.isDigit || c == '.' || c == '-'

/-- Reduce a text to what should be its host. -/
def reduce (cs : List Char) : List Char :=
  lowerChars (trimBoth isDot ((dropScheme (trimBoth isBlank cs)).takeWhile (!endsHost ·)))

/-- Without one line feed at the end. -/
def dropFinalNewline (cs : List Char) : List Char :=
  if cs.getLast? = some '\n' then cs.dropLast else cs

/-- Host characters with a dot among them. A line feed at the end is let through. -/
def wellFormed (cs : List Char) : Bool :=
  let name := dropFinalNewline cs
  !name.isEmpty && name.all isHostChar && cs.contains '.'

/-- The host that a text names. -/
def ofText (s : String) : Except Invalid String :=
  let host := reduce s.toList
  if wellFormed host then .ok (String.ofList host) else .error ⟨⟩

/-- The host that a value names: only texts name one. -/
def ofValue : Value → Except Invalid String
  | .text s => ofText s
  | _ => .error ⟨⟩

example : (ofText " https://Shop.Example.com:8080/path?q").toOption = some "shop.example.com" := by
  decide +kernel

example : (ofText "localhost").toOption = none := by decide +kernel

end DomainScout.Host
