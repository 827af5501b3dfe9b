import DomainScout.Check.Cache
import DomainScout.Check.Run
import DomainScout.Host
import DomainScout.Schedule.Agenda

/-!
# The check service

A caller asks for a domain. A report that was stored not too long ago is the answer; otherwise the
caller shares the run of that domain, which is started if none is under way. A caller may give up
waiting, which changes nothing for anybody else. A report without errors is stored.

Here is what the service keeps, and what can happen to it. Time is counted in milliseconds.
-/
namespace DomainScout

open Remote

/-- Where the service asks, and what it gets there. -/
structure CheckSites (σ : Type) where
  serve : Server σ
  reputation : Reputation.Site
  archive : Archive.Site
  /-- What the clock of the token desk shows at time zero. -/
  epoch : Int

/-- The plan of an errand about a domain. -/
def CheckSites.plan {σ : Type} (sites : CheckSites σ) (domain : String) : Errand → Plan
  | .logIn user password => sites.reputation.loginPlan user password
  | .lookup token => sites.reputation.lookupPlan domain token
  | .availability => sites.archive.availabilityPlan domain
  | .snapshots => sites.archive.snapshotsPlan domain

/-- Why a caller gets no report. -/
inductive CheckError where
  | invalidDomain (invalid : Host.Invalid)
  /-- The caller did not wait long enough. -/
  | gaveUp
  | crash (crash : Crash)

/-- A report, and whether it had been stored. -/
structure Checked where
  report : Report
  cached : Bool

/-- What a caller got, and when. -/
structure CheckAnswer where
  caller : Nat
  answeredAt : Nat
  result : Except CheckError Checked

/-- A caller who waits for a run. -/
structure Waiter where
  caller : Nat
  run : RunId

/-- What can happen to the service. -/
inductive CheckEvent where
  /-- A caller asks, and will wait for some milliseconds at most. -/
  | arrive (caller : Nat) (domain : Value) (patience : Option Nat)
  /-- A caller has waited long enough. -/
  | giveUp (caller : Nat)
  /-- A run sends its errand. -/
  | send (run : RunId) (errand : Errand) (attempt : Nat)
  /-- The attempt of an errand ends. -/
  | ended (run : RunId) (errand : Errand) (attempt : Nat) (outcome : Outcome)
  /-- A run that has ended is forgotten. -/
  | forget (run : RunId)

/-- One of some callers gives up. -/
def CheckEvent.isGiveUpOf (callers : List Nat) : CheckEvent → Bool
  | .giveUp caller => callers.contains caller
  | _ => false

/-- The service. -/
structure CheckService (σ : Type) where
  now : Nat
  /-- The state of the remote services. -/
  server : σ
  desk : Desk RunId
  cache : Cache Report
  flights : Flights
  /-- All runs so far. -/
  runs : List Run
  waiters : List Waiter
  agenda : Agenda CheckEvent
  /-- What was sent. -/
  sent : List Sent
  answers : List CheckAnswer

namespace CheckService

variable {σ : Type}

/-- A service that nobody has asked yet; stored reports last for some seconds. -/
def new (server : σ) (credentials : Credentials) (lifetime : Measure) : CheckService σ :=
  ⟨0, server, .new credentials, .empty lifetime, [], [], [], [], [], []⟩

/-- What the clock of the stored reports shows: real seconds. -/
def cacheClock (service : CheckService σ) : Measure := .ofMilliseconds service.now

/-- What the clock of the token desk shows. -/
def deskClock (sites : CheckSites σ) (service : CheckService σ) : Int := sites.epoch + service.now

/-- A run of the service. -/
def run? (service : CheckService σ) (id : RunId) : Option Run := service.runs.find? (·.id == id)

/-- The next run of a domain. -/
def nextRun (service : CheckService σ) (domain : String) : RunId :=
  ⟨domain, (service.runs.filter (·.id.domain == domain)).length⟩

/-- Change a run. -/
def updateRun (service : CheckService σ) (id : RunId) (change : Run → Run) : CheckService σ :=
  { service with runs := service.runs.map fun run => if run.id = id then change run else run }

/-- Put an event on the agenda. -/
def enter (service : CheckService σ) (due : Nat) (event : CheckEvent) : CheckService σ :=
  { service with agenda := service.agenda.enter due event }

/-- What a caller got. -/
def answerOf? (service : CheckService σ) (caller : Nat) : Option CheckAnswer :=
  service.answers.find? (·.caller == caller)

/-- Let time pass. -/
def advance (service : CheckService σ) (milliseconds : Nat) : CheckService σ :=
  { service with now := service.now + milliseconds }

/-- Drop the stored token. -/
def dropToken (service : CheckService σ) : CheckService σ :=
  { service with desk := service.desk.invalidate }

/-- Drop the stored reports. -/
def clearCache (service : CheckService σ) : CheckService σ :=
  { service with cache := service.cache.clear }

end CheckService

end DomainScout
