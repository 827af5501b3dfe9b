import DomainScout.Value.Numeric

/-!
# Failures that nobody handles

Most failures have a place in an answer. A few have none and end the operation at once.
-/
namespace DomainScout

/-- Why an operation ended without an answer. -/
inductive Crash where
  /-- A service or the program broke down. -/
  | breakdown
  /-- A header holds characters that cannot be sent. -/
  | unsendable
  /-- A request goes to what is no URL. -/
  | invalidUrl
  /-- An answer comes from a URL without a scheme, so nobody knows where it comes from. -/
  | unknownOrigin
  /-- A value of a response is nested too deeply. -/
  | tooDeep
  /-- Data lacks a field that is needed. -/
  | missingField
  /-- A value that is needed as a number is none. -/
  | number (fault : NumberFault)
  /-- A response holds a value of the wrong type. -/
  | malformed
  deriving DecidableEq

end DomainScout
