/-!
# Checks under way

While a domain is being checked, everyone who asks for it shares the run that is under way. A run
that has ended is forgotten in a step of its own, and only if it is still the one on record.
-/
namespace DomainScout

/-- A run of a domain, told apart from the other runs of the domain by a number. -/
structure RunId where
  domain : String
  number : Nat
  deriving DecidableEq

/-- The runs on record, at most one for each domain. -/
abbrev Flights := List RunId

namespace Flights

/-- The run on record for a domain. -/
def run? (flights : Flights) (domain : String) : Option RunId := flights.find? (·.domain == domain)

/-- Put a run on record. -/
def board (flights : Flights) (run : RunId) : Flights := flights ++ [run]

/-- Forget a run; another run of the same domain stays on record. -/
def forget (flights : Flights) (run : RunId) : Flights := flights.filter (· ≠ run)

end Flights

end DomainScout
