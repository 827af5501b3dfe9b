import DomainScout.Text.Digit
import DomainScout.Text.Part

/-!
# Numeric hosts

A host may be an address. One of four octets is written in base ten with dots, one of eight groups
in base sixteen with colons, of which a run of zero groups may be left out once and the last two
may be written as four octets. A zone may follow the groups.
-/
namespace DomainScout.Url

open Text

/-- Four runs of digits with one character between each two of them, which may be any. A host of
this form has to be an address. -/
def looksNumeric (cs : List Char) : Bool :=
  let runs := pieces (!·.isDigit) cs
  runs.length ≤ 4 && runs.all (!·.isEmpty) &&
    4 ≤ runs.length + runs.foldr (fun run spare => (run.length - 1) / 2 + spare) 0

/-- A number below 256 without zeros in front. -/
def isOctet (cs : List Char) : Bool :=
  cs.all Char.isDigit && (cs == ['0'] || (!cs.isEmpty && cs.head? != some '0')) &&
    cs.length ≤ 3 && digitsValue (cs.map fun c => c.toNat - 0x30) ≤ 255

/-- An address of four octets. -/
def isFourOctets (cs : List Char) : Bool :=
  let parts := pieces (· == '.') cs
  parts.length == 4 && parts.all isOctet

/-- A group of one to four digits in base sixteen. -/
def isGroup (cs : List Char) : Bool :=
  !cs.isEmpty && cs.length ≤ 4 && cs.all fun c => (hexValue? c).isSome

/-- The number of groups that a list of groups stands for, if it is well-formed. The last one may
be an address of four octets, which stands for two. -/
def groupCount? : List (List Char) → Option Nat
  | [] => some 0
  | [last] =>
    if last.contains '.' then (if isFourOctets last then some 2 else none)
    else if isGroup last then some 1 else none
  | group :: rest => if isGroup group then (groupCount? rest).map (· + 1) else none

/-- The groups between colons; an empty text has none. -/
def groups (cs : List Char) : List (List Char) := if cs.isEmpty then [] else pieces (· == ':') cs

/-- What stands before and after the first two colons in a row. -/
def splitAtGap : List Char → Option (List Char × List Char)
  | ':' :: ':' :: rest => some ([], rest)
  | c :: rest => (splitAtGap rest).map fun (before, after) => (c :: before, after)
  | [] => none

/-- An address of eight groups. -/
def isEightGroups (cs : List Char) : Bool :=
  match splitAtGap cs with
  | none => groupCount? (groups cs) == some 8
  | some (before, after) =>
    (groups before).all isGroup &&
      ((groupCount? (groups after)).any fun count => (groups before).length + count ≤ 7)

/-- An address of eight groups, and a zone if there is a percent sign. -/
def isZonedGroups (cs : List Char) : Bool :=
  let (address, zone) := cs.span (· != '%')
  isEightGroups address && (zone.isEmpty || (zone.length != 1 && !(zone.drop 1).contains '%'))

example : isEightGroups "::ffff:1.2.3.4".toList = true := by decide +kernel

example : isEightGroups "1:2:3:4:5:6:7::8".toList = false := by decide +kernel

end DomainScout.Url
