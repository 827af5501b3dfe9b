import DomainScout.Remote.Plan

/-!
# The archive

The Wayback Machine tells which snapshot of a page is the closest one, and lists the snapshots.
-/
namespace DomainScout.Remote.Archive

/-- Where the archive is, and how long it may take. -/
structure Site where
  availabilityUrl : String
  availabilityTimeout : Timeout
  snapshotsUrl : String
  snapshotsTimeout : Timeout

/-- A request for what an address tells about a domain. -/
def plan (address : String) (form : List (String × String)) (domain : String) (timeout : Timeout)
    (retries : Int) : Plan :=
  ⟨"GET", address, form, "application/json", none, none, some domain, timeout, retries⟩

/-- Ask for the closest snapshot. -/
def Site.availabilityPlan (site : Site) (domain : String) : Plan :=
  plan site.availabilityUrl [("url", "http://" ++ domain)] domain site.availabilityTimeout 1

/-- Ask for the list of snapshots. -/
def Site.snapshotsPlan (site : Site) (domain : String) : Plan :=
  plan site.snapshotsUrl
    [("url", domain), ("matchType", "exact"), ("output", "json"), ("fl", "timestamp"),
     ("limit", "10000")]
    domain site.snapshotsTimeout 0

/-- The object that a successful answer holds. -/
def objectOf? (response : Response) : Option Fields :=
  if response.isSuccess then
    match response.value with
    | .object fields => some fields
    | _ => none
  else none

/-- The list that a successful answer holds. -/
def listOf? (response : Response) : Option (List Value) :=
  if response.isSuccess then
    match response.value with
    | .list rows => some rows
    | _ => none
  else none

end DomainScout.Remote.Archive
