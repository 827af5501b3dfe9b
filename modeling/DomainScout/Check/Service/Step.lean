import DomainScout.Check.Service.Basic

/-!
# Steps of the check service

What each event does to the check service. A run that gets its last part ends: everybody who waits
for it is answered, a report without errors is stored, and the run is put down to be forgotten.
-/
namespace DomainScout.CheckService

open Remote

variable {σ : Type}

/-- An errand to the archive of a run of which another such errand crashed. -/
def isCutOff (service : CheckService σ) (id : RunId) (errand : Errand) : Bool :=
  errand.toArchive && ((service.run? id).bind Run.archiveCrash).isSome

/-- Send an errand, unless it is cut off. -/
def send (sites : CheckSites σ) (service : CheckService σ) (id : RunId) (errand : Errand)
    (attempt : Nat) : CheckService σ :=
  if service.isCutOff id errand then
    service.enter service.now (.ended id errand attempt (.ended (.crashed .breakdown)))
  else
    let started := (sites.plan id.domain errand).attempt sites.serve service.server service.now
    { service with
      server := started.server
      sent := service.sent ++ started.sent
      agenda := service.agenda.enter started.endsAt (.ended id errand attempt started.outcome) }

/-- Answer a caller. -/
def answer (service : CheckService σ) (caller : Nat) (result : Except CheckError Checked) :
    CheckService σ :=
  { service with answers := service.answers ++ [⟨caller, service.now, result⟩] }

/-- What the end of a run means to who waited for it. -/
def shared (outcome : Except Crash Report) : Except CheckError Checked :=
  match outcome with
  | .ok report => .ok ⟨report, false⟩
  | .error crash => .error (.crash crash)

/-- Answer everyone who waits for a run; none of them gives up any more. -/
def answerWaiters (service : CheckService σ) (id : RunId) (outcome : Except Crash Report) :
    CheckService σ :=
  let callers := (service.waiters.filter (·.run == id)).map Waiter.caller
  { service with
    waiters := service.waiters.filter (·.run != id)
    agenda := service.agenda.drop (CheckEvent.isGiveUpOf callers)
    answers := service.answers ++ callers.map fun caller => ⟨caller, service.now, shared outcome⟩ }

/-- Store a report without errors. -/
def store (service : CheckService σ) (outcome : Except Crash Report) : CheckService σ :=
  match outcome with
  | .ok report =>
    if report.isClean then
      { service with cache := service.cache.set service.cacheClock report.domain report }
    else service
  | .error _ => service

/-- End a run: keep its outcome, tell it to everyone who waits, and put the run down to be
forgotten. -/
def finish (service : CheckService σ) (id : RunId) (outcome : Except Crash Report) :
    CheckService σ :=
  let service := service.updateRun id fun run => { run with outcome := some outcome }
  ((service.store outcome).answerWaiters id outcome).enter service.now (.forget id)

/-- End a run that has everything, unless it has ended before. -/
def conclude (service : CheckService σ) (id : RunId) : CheckService σ :=
  match service.run? id with
  | none => service
  | some run =>
    match run.outcome, run.result? with
    | none, some outcome => service.finish id outcome
    | _, _ => service

/-- Take something into a run, which may end it. -/
def settle (service : CheckService σ) (id : RunId) (change : Run → Run) : CheckService σ :=
  (service.updateRun id change).conclude id

/-- Do what the token desk tells a run. -/
def follow (sites : CheckSites σ) (service : CheckService σ) (id : RunId) :
    Direction → CheckService σ
  | .wait => service
  | .logIn user password => service.send sites id (.logIn user password) 1
  | .take grant =>
    match grant.token.filter (· ≠ "") with
    | some token => service.send sites id (.lookup token) 1
    | none => service.settle id (·.withReputation (.ok (.unsupported grant.source)))

/-- Do what the token desk tells several runs. -/
def followAll (sites : CheckSites σ) (service : CheckService σ)
    (directions : List (RunId × Direction)) : CheckService σ :=
  directions.foldl (fun service (id, direction) => service.follow sites id direction) service

/-- Start a run. -/
def launch (sites : CheckSites σ) (service : CheckService σ) (id : RunId) : CheckService σ :=
  let (direction, desk) := service.desk.ask (service.deskClock sites) id
  let service := { service with
    desk
    runs := service.runs ++ [Run.new id]
    flights := service.flights.board id }
  ((service.follow sites id direction).send sites id .availability 1).send sites id .snapshots 1

/-- Let a caller wait for a run, or answer if the run has ended. -/
def join (service : CheckService σ) (caller : Nat) (id : RunId) (patience : Option Nat) :
    CheckService σ :=
  match (service.run? id).bind Run.outcome with
  | some outcome => service.answer caller (shared outcome)
  | none =>
    let service := { service with waiters := service.waiters ++ [⟨caller, id⟩] }
    match patience with
    | some milliseconds => service.enter (service.now + milliseconds) (.giveUp caller)
    | none => service

/-- A caller asks for a host whose report is not stored. -/
def share (sites : CheckSites σ) (service : CheckService σ) (caller : Nat) (host : String)
    (patience : Option Nat) : CheckService σ :=
  match service.flights.run? host with
  | some id => service.join caller id patience
  | none =>
    let id := service.nextRun host
    (service.launch sites id).join caller id patience

/-- Serve a caller who has asked for a domain. -/
def attend (sites : CheckSites σ) (service : CheckService σ) (caller : Nat) (domain : Value)
    (patience : Option Nat) : CheckService σ :=
  match Host.ofValue domain with
  | .error invalid => service.answer caller (.error (.invalidDomain invalid))
  | .ok host =>
    let (stored, cache) := service.cache.get service.cacheClock host
    let service := { service with cache }
    match stored with
    | some report => service.answer caller (.ok ⟨report, true⟩)
    | none => service.share sites caller host patience

/-- A caller asks for a domain. One without any patience is gone before being served. -/
def arrive (sites : CheckSites σ) (service : CheckService σ) (caller : Nat) (domain : Value)
    (patience : Option Nat) : CheckService σ :=
  match patience with
  | some 0 => service.answer caller (.error .gaveUp)
  | patience => service.attend sites caller domain patience

/-- A caller stops waiting. -/
def giveUp (service : CheckService σ) (caller : Nat) : CheckService σ :=
  let service := { service with waiters := service.waiters.filter (·.caller != caller) }
  service.answer caller (.error .gaveUp)

/-- The token of a login, or why there is none. -/
def tokenOf (clock : Int) (result : Except CallError Fields) :
    Except CallError Token := do
  (Token.ofLogin (← result) clock).mapError .crash

/-- The run that logged in goes on with its token, or without any. -/
def resume (sites : CheckSites σ) (service : CheckService σ) (id : RunId) :
    Except CallError Token → CheckService σ
  | .ok token => service.follow sites id (.take ⟨some token.text, .login⟩)
  | .error (.problem problem) =>
    service.settle id (·.withReputation (.ok (.failed problem.describe)))
  | .error (.crash crash) => service.settle id (·.withReputation (.error crash))

/-- A login ends: its own run goes on, and then those that waited for the desk. -/
def loginEnded (sites : CheckSites σ) (service : CheckService σ) (id : RunId)
    (token : Except CallError Token) : CheckService σ :=
  let (directions, desk) := service.desk.loggedIn (service.deskClock sites) token.toOption
  (resume sites { service with desk } id token).followAll sites directions

/-- The result is an answer that rejects the token. -/
def rejectsToken : Except CallError Response → Bool
  | .ok response => ReputationReport.rejectsToken response
  | .error _ => false

/-- A lookup ends: if its token was rejected, the desk drops the token that it has. -/
def lookupEnded (service : CheckService σ) (id : RunId) (result : Except CallError Response) :
    CheckService σ :=
  let service := if rejectsToken result then service.dropToken else service
  service.settle id (·.withReputation (ReputationReport.ofResult result))

/-- An errand is over. -/
def errandEnded (sites : CheckSites σ) (service : CheckService σ) (id : RunId) (errand : Errand)
    (outcome : Outcome) : CheckService σ :=
  let plan := sites.plan id.domain errand
  match errand with
  | .logIn _ _ =>
    service.loginEnded sites id
      (tokenOf (service.deskClock sites) (Reputation.loginResult plan outcome))
  | .lookup _ => service.lookupEnded id (plan.result outcome)
  | .availability => service.settle id (·.withAvailability (plan.result outcome))
  | .snapshots => service.settle id (·.withSnapshots (plan.result outcome))

/-- The attempt of an errand ends: it is repeated, or the errand is over. -/
def attemptEnded (sites : CheckSites σ) (service : CheckService σ) (id : RunId) (errand : Errand)
    (attempt : Nat) (outcome : Outcome) : CheckService σ :=
  match (sites.plan id.domain errand).verdict attempt outcome with
  | .retry wait => service.enter (service.now + wait) (.send id errand (attempt + 1))
  | .final => service.errandEnded sites id errand outcome

/-- What an event does. -/
def step (sites : CheckSites σ) (service : CheckService σ) : CheckEvent → CheckService σ
  | .arrive caller domain patience => service.arrive sites caller domain patience
  | .giveUp caller => service.giveUp caller
  | .send id errand attempt => service.send sites id errand attempt
  | .ended id errand attempt outcome => service.attemptEnded sites id errand attempt outcome
  | .forget id => { service with flights := service.flights.forget id }

end DomainScout.CheckService
