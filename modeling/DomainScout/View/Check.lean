import DomainScout.Check.Service.Run
import DomainScout.View.Response

/-!
# Checking a domain

A request names the domain to check. What goes wrong remotely is part of the response.
-/
namespace DomainScout.View

/-- A number of snapshots as a value. -/
def countValue : SnapshotCount → Value
  | .exactly n => .int n
  | .tooMany => .text "10000+"

/-- A report as an object whose field names go through a spelling. -/
def reportValue (spell : String → String) (checked : Checked) : Value :=
  let named (fields : List (String × Value)) : Value :=
    .object (fields.map fun (name, v) => (spell name, v))
  let reputation := checked.report.reputation
  let archive := checked.report.archive
  named
    [("domain", .text checked.report.domain), ("cached", .bool checked.cached),
     ("spamhaus", named
       [("supported", .bool reputation.supported), ("source", .text ReputationReport.source),
        ("listed", (reputation.listed.map Value.bool).getD .null), ("raw", reputation.raw),
        ("error", .ofText? reputation.error)]),
     ("wayback", named
       [("supported", .bool true), ("link", .text archive.link),
        ("has_snapshots", .bool archive.hasSnapshots),
        ("snapshots", (archive.snapshots.map countValue).getD .null),
        ("last_snapshot", .ofText? archive.lastSnapshot), ("error", .ofText? archive.error)])]

/-- What the check service tells, as a response. -/
def checkResult : Except CheckError Checked → Except ViewError Value
  | .ok checked => do
    let _ ← enclose checked.report.reputation.raw
    return finite (reportValue Text.camelCase checked)
  | .error (.invalidDomain invalid) => .error (.invalid invalid.message)
  | .error .gaveUp => .error (.unhandled (.crash .breakdown))
  | .error (.crash crash) => .error (.unhandled (.crash crash))

/-- The domain that a request names. -/
def domainOf (body : Value) : Except ViewError Value := return field (← bodyOf body) "domain"

/-- Answer a request for a check. -/
def check {σ : Type} (sites : CheckSites σ) (service : CheckService σ) (body : Value) :
    Except ViewError Value × CheckService σ :=
  match domainOf body with
  | .error error => (.error error, service)
  | .ok domain =>
    let service := service.check sites [⟨0, domain, none⟩]
    match service.answerOf? 0 with
    | some answer => (checkResult answer.result, service)
    | none => (.error (.unhandled (.crash .breakdown)), service)

end DomainScout.View
