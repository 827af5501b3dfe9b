/-!
# Sets of code points

The character classes of this library are unions of closed ranges of code points, listed in
increasing order. Membership is a scan, so a class can be evaluated inside a proof.
-/
namespace DomainScout.Text

/-- A union of closed ranges of code points. -/
abbrev CodeRanges := List (Nat × Nat)

/-- Membership of a code point in a union of ranges. -/
def CodeRanges.covers (ranges : CodeRanges) (code : Nat) : Bool :=
  ranges.any fun range => range.1 ≤ code && code ≤ range.2

theorem CodeRanges.covers_iff (ranges : CodeRanges) (code : Nat) :
    ranges.covers code = true ↔ ∃ range ∈ ranges, range.1 ≤ code ∧ code ≤ range.2 := by
  simp [CodeRanges.covers]

end DomainScout.Text
