import DomainScout.Remote.Archive
import DomainScout.Remote.Reputation
import DomainScout.Access.Desk

/-!
# Check reports

A check of a domain has two parts: what the reputation service says about the domain, and what the
archive holds of it. Every failure of a service becomes the error text of its part. Only a report
without error texts is worth keeping.
-/
namespace DomainScout

open Remote

/-- What the reputation service says. -/
structure ReputationReport where
  /-- The check could be made. -/
  supported : Bool
  listed : Option Bool
  /-- What the service tells about a listed domain. -/
  raw : Value
  error : Option String

namespace ReputationReport

/-- The name of the service. -/
def source : String := "spamhaus_intel"

/-- A check that could be made and failed. -/
def failed (error : String) : ReputationReport := ⟨true, none, .null, some error⟩

/-- What is told when no credentials are configured. -/
def missingCredentials : String :=
  "Missing Spamhaus Intel credentials (set SPAMHAUS_INTEL_API_KEY or SPAMHAUS_INTEL_USERNAME/PASSWORD)"

/-- What is told when there is no token. -/
def missingToken : String := "Missing Spamhaus Intel token"

/-- A check that could not be made. -/
def unsupported (source : TokenSource) : ReputationReport :=
  ⟨false, none, .null, some (if source = .missing then missingCredentials else missingToken)⟩

/-- The answer rejects the token. -/
def rejectsToken (response : Response) : Bool := response.status == 401 || response.status == 403

/-- What an answer to a lookup says. -/
def ofResponse (response : Response) : ReputationReport :=
  if response.status = 404 then ⟨true, some false, .null, none⟩
  else if response.status = 200 then
    let raw := match response.value with
      | .null => .text response.text
      | v => v
    ⟨true, some true, raw, none⟩
  else if rejectsToken response then
    failed ("Auth failed (HTTP " ++ toString response.status ++ ")")
  else failed (Reputation.statusText response 300)

/-- What the result of a lookup says. -/
def ofResult : Except CallError Response → Except Crash ReputationReport
  | .ok response => .ok (ofResponse response)
  | .error (.problem problem) => .ok (failed problem.describe)
  | .error (.crash crash) => .error crash

end ReputationReport

/-- A number of snapshots, of which only the first ten thousand are counted. -/
inductive SnapshotCount where
  | exactly (n : Nat)
  | tooMany
  deriving DecidableEq

/-- What the archive holds. -/
structure ArchiveReport where
  /-- Where a person can see the snapshots. -/
  link : String
  hasSnapshots : Bool
  snapshots : Option SnapshotCount
  /-- The day of the closest snapshot. -/
  lastSnapshot : Option String
  error : Option String

namespace ArchiveReport

/-- What one call to the archive comes to: a value, if the answer holds one, or a problem. -/
abbrev Part (α : Type) := Except Problem (Option α)

/-- Where a person can see the snapshots of a domain. -/
def linkTo (domain : String) : String := "https://web.archive.org/web/*/" ++ domain

/-- The day of a time stamp, which starts with year, month and day. -/
def dayOf (stamp : Value) : Option String :=
  let cs := (stamp.orElse (.text "")).display.toList
  if cs.length < 8 then none
  else some (String.ofList (cs.take 4 ++ '-' :: (cs.drop 4).take 2 ++ '-' :: (cs.drop 6).take 2))

/-- The closest snapshot in an answer about availability: its fields, none if the answer has
another shape. -/
def closest (answer : Fields) : Fields :=
  match (Value.lookup? "archived_snapshots" answer).bind (Value.field? "closest") with
  | some (.object fields) => fields
  | _ => []

/-- The greatest number of snapshots that is told exactly. -/
def countCap : Nat := 9999

/-- The number of snapshots in a list whose first row is a header. -/
def countOf (rows : List Value) : Option SnapshotCount :=
  match rows with
  | [] => none
  | _ :: snapshots =>
    if countCap ≤ snapshots.length then some .tooMany else some (.exactly snapshots.length)

/-- What was read, if anything was. -/
def valueOf? {α : Type} : Part α → Option α
  | .ok value => value
  | .error _ => none

/-- Both calls together. Only when both failed is there nothing to report. -/
def merge (domain : String) (availability : Part Fields)
    (rows : Part (List Value)) : ArchiveReport :=
  match availability, rows with
  | .error problem, .error _ =>
    ⟨linkTo domain, false, none, none,
     some ("Wayback Machine unavailable: " ++ problem.describe)⟩
  | _, _ =>
    let fields := closest ((valueOf? availability).getD [])
    { link := linkTo domain
      hasSnapshots := ((Value.lookup? "available" fields).getD .null).truthy
      snapshots := (valueOf? rows).bind countOf
      lastSnapshot := dayOf ((Value.lookup? "timestamp" fields).getD .null)
      error := none }

/-- What a call comes to, read with the given reader. -/
def partOf {α : Type} (read : Response → Option α) :
    Except CallError Response → Except Crash (Part α)
  | .ok response => .ok (.ok (read response))
  | .error (.problem problem) => .ok (.error problem)
  | .error (.crash crash) => .error crash

end ArchiveReport

/-- The report on a domain. -/
structure Report where
  domain : String
  reputation : ReputationReport
  archive : ArchiveReport

/-- There is an error text, and it says something. -/
def tellsError (error : Option String) : Bool := error.any (· ≠ "")

/-- No part tells an error. -/
def Report.isClean (report : Report) : Bool :=
  !tellsError report.reputation.error && !tellsError report.archive.error

end DomainScout
