/-!
# Base64

Three octets are written as four letters of six bits each. One or two octets at the end are
written as two or three letters, and padding fills up the four.
-/
namespace DomainScout.Text.Base64

/-- The letters, by value. -/
def alphabet : List Char :=
  "ABCDEFGHIJKLMNOPQRSTUVWXYZabcdefghijklmnopqrstuvwxyz0123456789+/".toList

/-- The letter of a value below sixty-four. -/
def letter (n : Nat) : Char := alphabet.getD n '='

/-- Four letters for a number of twenty-four bits. -/
def letters (n : Nat) : List Char :=
  [letter (n >>> 18 % 64), letter (n >>> 12 % 64), letter (n >>> 6 % 64), letter (n % 64)]

/-- Octets as letters. -/
def encode : List UInt8 → List Char
  | [] => []
  | [a] => (letters (a.toNat <<< 16)).take 2 ++ ['=', '=']
  | [a, b] => (letters (a.toNat <<< 16 + b.toNat <<< 8)).take 3 ++ ['=']
  | a :: b :: c :: rest => letters (a.toNat <<< 16 + b.toNat <<< 8 + c.toNat) ++ encode rest

example : String.ofList (encode [117, 58, 112, 119]) = "dTpwdw==" := by decide +kernel

end DomainScout.Text.Base64
