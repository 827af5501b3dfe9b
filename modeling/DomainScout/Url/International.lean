import DomainScout.Text.Case
import DomainScout.Text.Part
import DomainScout.Url.International.Data
import DomainScout.Url.Punycode

/-!
# International hosts

A host with characters beyond ASCII is written in ASCII, label by label, in lower case. Every label
has to be one that may stand in a host name, those that are in ASCII already included.
-/
namespace DomainScout.Url

open Text

/-- A dot of any width. -/
def isLabelDot (c : Char) : Bool := c == '.' || c == '。' || c == '．' || c == '｡'

/-- The start of a label that stands for another one. -/
def encodedMark : List Char := "xn--".toList

/-- A label of a host name: hyphens stand inside, and not at its third and fourth place. -/
def isLabel (label : List Char) : Bool :=
  !label.isEmpty && label.head? != some '-' && label.getLast? != some '-' &&
    (label.drop 2).take 2 != ['-', '-'] && label.all fun c => isLabelCode c.toNat

/-- A label that stands for another one, which may be any. -/
def isEncodedLabel (label : List Char) : Bool :=
  encodedMark.isPrefixOf label && 4 < label.length && label.getLast? != some '-'

/-- A label in ASCII. -/
def labelText? (label : List Char) : Option (List Char) :=
  let text? :=
    if label.all (·.toNat < 0x80) then
      if isEncodedLabel label || isLabel label then some label else none
    else if isLabel label then some (encodedMark ++ Punycode.encode label)
    else none
  text?.filter (·.length ≤ 63)

/-- The labels of a host; a dot at its end is kept as an empty label. -/
def labels (host : List Char) : List (List Char) × Bool :=
  let parts := pieces isLabelDot host
  if parts.getLast? = some [] then (parts.dropLast, true) else (parts, false)

/-- An international host in ASCII. -/
def internationalHost? (host : List Char) : Option (List Char) := do
  let (parts, dotted) := labels (lowerChars host)
  let texts ← parts.mapM labelText?
  let joined := List.intercalate ['.'] (texts ++ if dotted then [[]] else [])
  if joined.length ≤ (if dotted then 254 else 253) then some joined else none

example : (internationalHost? "Bücher.example".toList).map String.ofList
    = some "xn--bcher-kva.example" := by decide +kernel

end DomainScout.Url
