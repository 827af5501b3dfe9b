import DomainScout.Text.Case.Data

/-!
# Lower-casing

Texts are compared and canonicalized in lower case. Every character is lowered on its own, with
two exceptions: `İ` becomes two characters, and the capital sigma takes its final form `ς` at the
end of a word, that is after a cased character and with no cased character following. Characters
that are transparent to case do not end a word.
-/
namespace DomainScout.Text

/-- Cased, and not transparent to case. -/
def isCased (c : Char) : Bool := casedRanges.covers c.toNat

/-- Transparent to case: skipped when looking for the neighbours of a capital sigma. -/
def isCaseIgnorable (c : Char) : Bool := caseIgnorableRanges.covers c.toNat

/-- The lower-case form of a character away from any context. -/
def lowerChar (c : Char) : List Char :=
  if c.toNat < 0x80 then [c.toLower]
  else if c = 'İ' then ['i', '\u0307']
  else match lowerRuns.find? (·.covers c.toNat) with
    | some run => [Char.ofNat ((c.toNat : Int) + run.shift).toNat]
    | none => [c]

/-- The first character that is not transparent to case is cased. -/
def casedFirst : List Char → Bool
  | [] => false
  | c :: rest => if isCaseIgnorable c then casedFirst rest else isCased c

/-- Lower-case a text whose preceding text ends in a cased character, transparent ones apart,
when `afterCased`. -/
def lowerAfter (afterCased : Bool) : List Char → List Char
  | [] => []
  | c :: rest =>
    let form := if c = 'Σ' then [if afterCased && !casedFirst rest then 'ς' else 'σ']
      else lowerChar c
    form ++ lowerAfter (if isCaseIgnorable c then afterCased else isCased c) rest

/-- Lower-case the characters of a text. -/
def lowerChars (cs : List Char) : List Char := lowerAfter false cs

/-- Lower-case a text. -/
def lower (s : String) : String := String.ofList (lowerChars s.toList)

example : lower "ΟΣ" = "ος" := by decide +kernel

example : lower "İ\u212A" = "i\u0307k" := by decide +kernel

end DomainScout.Text
