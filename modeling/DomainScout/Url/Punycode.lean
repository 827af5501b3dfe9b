/-!
# Punycode

A label with characters beyond ASCII is written in ASCII: its ASCII characters first, and behind a
hyphen what tells where to insert the others. They are inserted in the order of their code points,
equal ones from left to right. All that could be inserted next, at any place and with any code
point, stands in one row, and a number tells how far to go in that row from one insertion to the
next.

A number is written in base thirty-six with its least digit first. Every place has a greatest
digit that ends a number, and these follow the size of the numbers so far.
-/
namespace DomainScout.Url.Punycode

/-- A character to insert: its code point, and how many characters stand before it by then. -/
structure Insertion where
  code : Nat
  index : Nat

/-- The insertions of a label from left to right, given the code points before in reverse. -/
def insertionsAfter (before : List Nat) : List Char → List Insertion
  | [] => []
  | c :: rest =>
    let later := insertionsAfter (c.toNat :: before) rest
    if c.toNat < 0x80 then later else ⟨c.toNat, before.countP (· ≤ c.toNat)⟩ :: later

/-- The insertions of a label in order. -/
def insertions (label : List Char) : List Insertion :=
  (insertionsAfter [] label).mergeSort fun a b => a.code ≤ b.code

/-- A number below thirty-six: letters first. -/
def symbol (n : Nat) : Char := Char.ofNat (if n < 26 then 0x61 + n else 0x16 + n)

/-- The greatest digit that ends a number at a place. -/
def greatestLast (bias place : Nat) : Nat := min 25 (place - bias - 1)

/-- A number from a place on. -/
def spell (bias place n : Nat) : List Char :=
  let last := greatestLast bias place
  if n ≤ last then [symbol n]
  else
    let beyond := n - last - 1
    symbol (last + 1 + beyond % (35 - last)) :: spell bias (place + 36) (beyond / (35 - last))
termination_by n
decreasing_by exact Nat.lt_of_le_of_lt (Nat.div_le_self _ _) (by omega)

/-- The bias for numbers of some size. -/
def biasFor (n place : Nat) : Nat :=
  if n ≤ 455 then place + 36 * n / (n + 38) else biasFor (n / 35) (place + 36)
termination_by n
decreasing_by exact Nat.div_lt_self (by omega) (by omega)

/-- How far the insertions have come. -/
structure Progress where
  /-- The code point of the last insertion. -/
  code : Nat
  /-- The place behind the last insertion. -/
  index : Nat
  /-- The characters in place. -/
  placed : Nat
  bias : Nat
  /-- How much a number counts for the next bias. -/
  damping : Nat

/-- The numbers of some insertions. -/
def spellAll (progress : Progress) : List Insertion → List Char
  | [] => []
  | insertion :: rest =>
    let choices := progress.placed + 1
    let steps := (insertion.code - progress.code) * choices + insertion.index - progress.index
    let damped := steps / progress.damping
    let next : Progress :=
      { code := insertion.code
        index := insertion.index + 1
        placed := choices
        bias := biasFor (damped + damped / choices) 0
        damping := 2 }
    spell progress.bias 36 steps ++ spellAll next rest

/-- A label in ASCII. -/
def encode (label : List Char) : List Char :=
  let basic := label.filter (·.toNat < 0x80)
  let start : Progress := ⟨0x80, 0, basic.length, 72, 700⟩
  basic ++ (if basic.isEmpty then [] else ['-']) ++ spellAll start (insertions label)

example : encode "bücher".toList = "bcher-kva".toList := by decide +kernel

end DomainScout.Url.Punycode
