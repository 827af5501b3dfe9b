import DomainScout.Value.Numeric

/-!
# Numbers that clients send

Clients send numbers as numbers or as text. What counts is the integer part of the number; a value
that is no number, or no finite one, counts as missing. Only a number beyond the range of binary64
is refused.
-/
namespace DomainScout.Query

/-- The integer part of the finite number that a text spells. -/
def wholeOfText? (s : String) : Option Int :=
  (Number.readReal? s.toList).bind Binary64.truncate?

/-- The integer part of a value that is a finite number. -/
def wholeOf? (v : Value) : Except NumberFault (Option Int) :=
  match v.toReal with
  | .ok x => .ok x.truncate?
  | .error .outOfRange => .error .outOfRange
  | .error _ => .ok none

/-- An age in years: the integer part, negative ages counting as zero. -/
def years? (text : Option String) : Option Int := (text.bind wholeOfText?).map (max 0)

/-- The days to look ahead when nothing else is asked for. -/
def defaultDays : Int := 30

/-- The days to look ahead for a reading: at least one. -/
def daysFor (reading : Option Int) : Int := (reading.map (max 1)).getD defaultDays

/-- The days to look ahead for a text. -/
def daysOfText (text : Option String) : Int := daysFor (text.bind wholeOfText?)

/-- The days to look ahead for a value. -/
def daysOf (v : Value) : Except NumberFault Int := (wholeOf? v).map daysFor

/-- The integer part of a value between two bounds, or a fallback for what is no number. -/
def clampInt (v : Value) (least greatest fallback : Int) : Except NumberFault Int :=
  (wholeOf? v).map fun reading =>
    match reading with
    | none => fallback
    | some n => min greatest (max least n)

end DomainScout.Query
