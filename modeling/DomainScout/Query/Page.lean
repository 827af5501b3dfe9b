import DomainScout.Query.Quantity

/-!
# Pages

A search returns one page of its rows. Clients may ask for any page and any page size; both are
brought within bounds.
-/
namespace DomainScout.Query

/-- Which rows of a result to return. -/
structure Page where
  number : Int
  size : Int
  deriving DecidableEq

namespace Page

/-- The greatest page number. -/
def maxNumber : Int := 1000000000

/-- The greatest page size. -/
def maxSize : Int := 500

/-- The page size when nothing else is asked for. -/
def defaultSize : Int := 50

/-- The page that a client gets for the number and size it asks for. -/
def clamp (number size : Value) : Except NumberFault Page := do
  let number ← clampInt number 1 maxNumber 1
  let size ← clampInt size 1 maxSize defaultSize
  return ⟨number, size⟩

/-- How many rows come before the page. -/
def offset (page : Page) : Int := (page.number - 1) * page.size

/-- The number of pages of a quotient, which is rounded up: at least one. -/
def roundUp (quotient : Binary64) : Except NumberFault Int :=
  match quotient.ceiling? with
  | some n => .ok (max 1 n)
  | none => .error .outOfRange

/-- The number of pages of some rows. The quotient is rounded to binary64 before it is rounded
up. -/
def total (page : Page) (rows : Int) : Except NumberFault Int :=
  roundUp (Binary64.ofRatio (rows < 0) rows.natAbs page.size.natAbs)

end Page

end DomainScout.Query
