import DomainScout.Check.Service.Run
import DomainScout.Proofs.Check.Cache
import DomainScout.Proofs.Check.Report
import Mathlib.Logic.Relation

/-!
# What can change in a check service

Whatever happens to a check service, it goes through a few kinds of changes one after another. A
property of the service that every kind preserves holds whatever happens.

Main statements: `labours_attemptEnded` and `attended`, what the two kinds of events come to that do more
than one thing.
-/
namespace DomainScout

namespace Flights

variable {flights : Flights} {domain : String} {id : RunId}

theorem mem_of_run? (onRecord : flights.run? domain = some id) : id ∈ flights ∧ id.domain = domain := by
  have named := List.find?_some onRecord
  exact ⟨List.mem_of_find?_eq_some onRecord, eq_of_beq named⟩

theorem run?_eq_none : flights.run? domain = none ↔ ∀ id ∈ flights, id.domain ≠ domain := by
  simp only [run?, List.find?_eq_none, beq_iff_eq, ne_eq]

theorem run?_board (unknown : flights.run? id.domain = none) :
    (flights.board id).run? id.domain = some id := by
  unfold run? at unknown
  simp only [run?, board, List.find?_append, unknown, Option.none_or, List.find?_singleton, beq_self_eq_true,
    if_true]

theorem mem_forget {other : RunId} : other ∈ flights.forget id ↔ other ∈ flights ∧ other ≠ id := by
  simp only [forget, List.mem_filter, decide_eq_true_eq]

end Flights

/-- The event is one of an errand. -/
def CheckEvent.isErrand : CheckEvent → Bool
  | .send _ _ _ | .ended _ _ _ _ => true
  | _ => false

namespace Run

/-- What the reputation service says is no error without a text. -/
def Telling (run : Run) : Prop := ∀ report, run.reputation = some (.ok report) → report.Telling

/-- A change of a run by which it takes something in. -/
structure TakesIn (change : Run → Run) : Prop where
  id (run : Run) : (change run).id = run.id
  outcome (run : Run) : (change run).outcome = run.outcome
  telling (run : Run) : run.Telling → (change run).Telling

end Run

namespace CheckService

open Remote

variable {σ : Type}

/-- The kinds of changes that the work of the service consists of: callers join runs, and runs go on
to their ends. -/
inductive Change : CheckService σ → CheckService σ → Prop
  /-- Errands are sent or put down to be sent, and the token desk does its work. -/
  | errands {service : CheckService σ} {server : σ} {desk : Desk RunId} {sent : List Sent}
      {more : Agenda CheckEvent} (only : ∀ timed ∈ more, timed.item.isErrand = true) :
      Change service { service with server, desk, sent, agenda := service.agenda ++ more }
  /-- A caller is not served. -/
  | refused {service : CheckService σ} {caller : Nat} {error : CheckError} :
      Change service (service.answer caller (.error error))
  | looked {service : CheckService σ} {host : String} :
      Change service { service with cache := (service.cache.get service.cacheClock host).2 }
  | launched {service : CheckService σ} {host : String}
      (missing : service.cache.entry? host = none) (unknown : service.flights.run? host = none) :
      Change service { service with
        runs := service.runs ++ [Run.new (service.nextRun host)]
        flights := service.flights.board (service.nextRun host) }
  | joined {service : CheckService σ} {caller : Nat} {host : String} {id : RunId}
      {patience : Option Nat} (onRecord : service.flights.run? host = some id) :
      Change service (service.join caller id patience)
  /-- A run takes something in. -/
  | noted {service : CheckService σ} {id : RunId} {change : Run → Run}
      (takesIn : Run.TakesIn change) : Change service (service.updateRun id change)
  | finished {service : CheckService σ} {id : RunId} {run : Run} {outcome : Except Crash Report}
      (found : service.run? id = some run) (unfinished : run.outcome = none)
      (complete : run.result? = some outcome) : Change service (service.finish id outcome)
  /-- An event other than that a run is forgotten leaves the agenda. -/
  | taken {service : CheckService σ} {before after : Agenda CheckEvent}
      {timed : Timed CheckEvent} (place : service.agenda = before ++ timed :: after)
      (other : ∀ id, timed.item ≠ .forget id) :
      Change service { service with agenda := before ++ after }

/-- Any number of changes. -/
abbrev Changes : CheckService σ → CheckService σ → Prop := Relation.ReflTransGen Change

/-- The kinds of changes that come of the runs alone, while nobody comes or goes. -/
inductive Labour : CheckService σ → CheckService σ → Prop
  | errands {service : CheckService σ} {server : σ} {desk : Desk RunId} {sent : List Sent}
      {more : Agenda CheckEvent} (only : ∀ timed ∈ more, timed.item.isErrand = true) :
      Labour service { service with server, desk, sent, agenda := service.agenda ++ more }
  | launched {service : CheckService σ} {host : String}
      (missing : service.cache.entry? host = none) (unknown : service.flights.run? host = none) :
      Labour service { service with
        runs := service.runs ++ [Run.new (service.nextRun host)]
        flights := service.flights.board (service.nextRun host) }
  | noted {service : CheckService σ} {id : RunId} {change : Run → Run}
      (takesIn : Run.TakesIn change) : Labour service (service.updateRun id change)
  | finished {service : CheckService σ} {id : RunId} {run : Run} {outcome : Except Crash Report}
      (found : service.run? id = some run) (unfinished : run.outcome = none)
      (complete : run.result? = some outcome) : Labour service (service.finish id outcome)

theorem Labour.change {service after : CheckService σ} (labour : Labour service after) :
    Change service after := by
  cases labour with
  | errands only => exact .errands only
  | launched missing unknown => exact .launched missing unknown
  | noted takesIn => exact .noted takesIn
  | finished found unfinished complete => exact .finished found unfinished complete

abbrev Labours : CheckService σ → CheckService σ → Prop := Relation.ReflTransGen Labour

theorem Labours.changes {service after : CheckService σ} (labours : Labours service after) :
    Changes service after := by
  induction labours with
  | refl => exact .refl
  | tail _ last ih => exact ih.tail last.change

/-! ### What each function changes -/

section Functions

variable {sites : CheckSites σ} {service : CheckService σ} {id : RunId}

/-- Sending an errand puts down that its attempt ends, and nothing else is put down. -/
theorem send_eq (sites : CheckSites σ) (service : CheckService σ) (id : RunId) (errand : Errand)
    (attempt : Nat) :
    ∃ server sent due outcome, service.send sites id errand attempt =
      { service with server, sent, agenda := service.agenda.enter due (.ended id errand attempt outcome) } := by
  unfold send
  split
  · exact ⟨service.server, service.sent, service.now, _, rfl⟩
  · exact ⟨_, _, _, _, rfl⟩

theorem labours_send (errand : Errand) (attempt : Nat) :
    Labours service (service.send sites id errand attempt) := by
  obtain ⟨server, sent, due, outcome, eq⟩ := send_eq sites service id errand attempt
  have labour : Labour service { service with
      server, sent
      agenda := service.agenda.enter due (.ended id errand attempt outcome) } :=
    .errands (List.forall_mem_singleton.mpr rfl)
  rw [eq]
  exact .single labour

theorem labours_desk (desk : Desk RunId) : Labours service { service with desk } := by
  have labour : Labour service { service with desk, agenda := service.agenda ++ [] } :=
    .errands nofun
  rw [List.append_nil] at labour
  exact .single labour

/-- The ways in which concluding a run can end. -/
inductive Concluded (service : CheckService σ) (id : RunId) : CheckService σ → Prop
  | left (waits : ∀ run, service.run? id = some run → run.outcome ≠ none ∨ run.result? = none) :
      Concluded service id service
  | finished {run : Run} {outcome : Except Crash Report} (found : service.run? id = some run)
      (unfinished : run.outcome = none) (complete : run.result? = some outcome) :
      Concluded service id (service.finish id outcome)

theorem concluded (service : CheckService σ) (id : RunId) :
    Concluded service id (service.conclude id) := by
  unfold conclude
  split
  next absent =>
    refine .left ?_
    intro run found
    rw [absent] at found
    cases found
  next run found =>
    split
    next outcome unfinished complete => exact .finished found unfinished complete
    next other =>
      refine .left ?_
      intro run' found'
      cases found.symm.trans found'
      cases unfinished : run.outcome with
      | some outcome => exact .inl (Option.some_ne_none _)
      | none =>
        cases complete : run.result? with
        | some outcome => exact absurd complete (other outcome unfinished)
        | none => exact .inr rfl

theorem labours_settle {change : Run → Run} (takesIn : Run.TakesIn change) :
    Labours service (service.settle id change) := by
  have noted : Labour service (service.updateRun id change) := .noted takesIn
  have ended := concluded (service.updateRun id change) id
  unfold settle
  generalize (service.updateRun id change).conclude id = outcome at ended ⊢
  cases ended with
  | left => exact .single noted
  | finished found unfinished complete =>
    exact .tail (.single noted) (.finished found unfinished complete)

/-! What runs take in. -/

theorem takesIn_reputation {report : Except Crash ReputationReport}
    (telling : ∀ told, report = .ok told → told.Telling) :
    Run.TakesIn (·.withReputation report) where
  id _ := rfl
  outcome _ := rfl
  telling _ _ told taken := telling told (Option.some.inj taken)

theorem takesIn_availability (result : Except CallError Response) :
    Run.TakesIn (·.withAvailability result) where
  id run := by
    unfold Run.withAvailability
    split <;> rfl
  outcome run := by
    unfold Run.withAvailability
    split <;> rfl
  telling run telling := by
    unfold Run.withAvailability
    split <;> exact telling

theorem takesIn_snapshots (result : Except CallError Response) :
    Run.TakesIn (·.withSnapshots result) where
  id run := by
    unfold Run.withSnapshots
    split <;> rfl
  outcome run := by
    unfold Run.withSnapshots
    split <;> rfl
  telling run telling := by
    unfold Run.withSnapshots
    split <;> exact telling

theorem labours_follow (direction : Direction) :
    Labours service (service.follow sites id direction) := by
  unfold follow
  split
  · exact .refl
  · exact labours_send _ _
  · split
    · exact labours_send _ _
    · apply labours_settle
      apply takesIn_reputation
      intro told same
      cases same
      exact ReputationReport.telling_unsupported _

theorem labours_followAll (directions : List (RunId × Direction)) :
    Labours service (service.followAll sites directions) := by
  induction directions generalizing service with
  | nil => exact .refl
  | cons first rest ih => exact (labours_follow first.2).trans ih

/-! What is on record does not change while a run is served. -/

@[simp] theorem flights_send (errand : Errand) (attempt : Nat) :
    (service.send sites id errand attempt).flights = service.flights := by
  obtain ⟨_, _, _, _, eq⟩ := send_eq sites service id errand attempt
  rw [eq]

@[simp] theorem flights_store (outcome : Except Crash Report) :
    (service.store outcome).flights = service.flights := by
  unfold store
  split
  · split <;> rfl
  · rfl

@[simp] theorem flights_finish (outcome : Except Crash Report) :
    (service.finish id outcome).flights = service.flights :=
  @flights_store _ (service.updateRun id _) outcome

@[simp] theorem flights_settle (change : Run → Run) :
    (service.settle id change).flights = service.flights := by
  have ended := concluded (service.updateRun id change) id
  unfold settle
  generalize (service.updateRun id change).conclude id = outcome at ended ⊢
  cases ended with
  | left => rfl
  | finished => exact flights_finish _

@[simp] theorem flights_follow (direction : Direction) :
    (service.follow sites id direction).flights = service.flights := by
  unfold follow
  split
  · rfl
  · exact flights_send _ _
  · split
    · exact flights_send _ _
    · exact flights_settle _

theorem flights_launch : (service.launch sites id).flights = service.flights.board id := by
  simp only [launch, flights_send, flights_follow]

theorem labours_launch {host : String} (missing : service.cache.entry? host = none)
    (unknown : service.flights.run? host = none) :
    Labours service (service.launch sites (service.nextRun host)) := by
  have asked : Labours service
      { service with desk := (service.desk.ask (service.deskClock sites) (service.nextRun host)).2 } :=
    labours_desk _
  -- The desk is asked first, and the three errands set out once the run is on record.
  refine (asked.tail (.launched missing unknown)).trans ?_
  exact ((labours_follow _).trans (labours_send _ _)).trans (labours_send _ _)

theorem changes_share {caller : Nat} {host : String} {patience : Option Nat}
    (missing : service.cache.entry? host = none) :
    Changes service (service.share sites caller host patience) := by
  unfold share
  split
  next id onRecord => exact .single (.joined onRecord)
  next unknown =>
    -- A run is on record from its launch on, also when it has ended at once.
    have onRecord : (service.launch sites (service.nextRun host)).flights.run? host =
        some (service.nextRun host) := by
      rw [flights_launch]
      exact Flights.run?_board unknown
    exact (labours_launch missing unknown).changes.tail (.joined onRecord)

/-- The ways in which a caller who asks can be dealt with. -/
inductive Attended (service : CheckService σ) (caller : Nat) (domain : Value)
    (patience : Option Nat) : CheckService σ → Prop
  | changed {after : CheckService σ} (changes : Changes service after) :
      Attended service caller domain patience after
  /-- The report is stored. -/
  | recalled {host : String} {report : Report} (patient : patience ≠ some 0)
      (reads : Host.ofValue domain = .ok host)
      (stored : (service.cache.get service.cacheClock host).1 = some report) :
      Attended service caller domain patience (service.answer caller (.ok ⟨report, true⟩))

theorem arrive_eq_attend {caller : Nat} {domain : Value} {patience : Option Nat}
    (patient : patience ≠ some 0) :
    service.arrive sites caller domain patience = service.attend sites caller domain patience := by
  unfold arrive
  split
  · exact absurd rfl patient
  · rfl

theorem arrive_of_stored {caller : Nat} {domain : Value} {patience : Option Nat} {host : String}
    {report : Report} (patient : patience ≠ some 0) (reads : Host.ofValue domain = .ok host)
    (stored : (service.cache.get service.cacheClock host).1 = some report) :
    service.arrive sites caller domain patience =
      answer { service with cache := (service.cache.get service.cacheClock host).2 } caller
        (.ok ⟨report, true⟩) := by
  rw [arrive_eq_attend patient]
  simp only [attend, reads, stored]

theorem arrive_of_missing {caller : Nat} {domain : Value} {patience : Option Nat} {host : String}
    (patient : patience ≠ some 0) (reads : Host.ofValue domain = .ok host)
    (missing : (service.cache.get service.cacheClock host).1 = none) :
    service.arrive sites caller domain patience =
      share sites { service with cache := (service.cache.get service.cacheClock host).2 } caller host
        patience := by
  rw [arrive_eq_attend patient]
  simp only [attend, reads, missing]

theorem attended (sites : CheckSites σ) (service : CheckService σ) (caller : Nat) (domain : Value)
    (patience : Option Nat) :
    Attended service caller domain patience (service.arrive sites caller domain patience) := by
  by_cases gone : patience = some 0
  · subst gone
    exact .changed (.single .refused)
  rw [arrive_eq_attend gone]
  unfold attend
  split
  · exact .changed (.single .refused)
  next host reads =>
    have looked : Change service
        { service with cache := (service.cache.get service.cacheClock host).2 } := .looked
    -- Reading erases what is too old, so what was not read is not there any more.
    have ended := service.cache.got service.cacheClock host
    have unread := @Cache.entry?_of_get_eq_none _ service.cache service.cacheClock host
    have recalled := @Attended.recalled _ service caller domain patience host
    generalize service.cache.get service.cacheClock host = outcome at ended looked unread recalled ⊢
    cases ended with
    | missing | past => exact .changed ((changes_share (unread rfl)).head looked)
    | hit => exact recalled gone reads rfl

theorem labours_resume (token : Except CallError Token) :
    Labours service (service.resume sites id token) := by
  unfold resume
  split
  · exact labours_follow _
  next problem =>
    apply labours_settle
    apply takesIn_reputation
    intro told same
    cases same
    exact ReputationReport.telling_failed problem.describe_ne_empty
  · exact labours_settle (takesIn_reputation nofun)

theorem labours_loginEnded (token : Except CallError Token) :
    Labours service (service.loginEnded sites id token) :=
  ((labours_desk _).trans (labours_resume token)).trans (labours_followAll _)

theorem labours_lookupEnded (result : Except CallError Response) :
    Labours service (service.lookupEnded id result) := by
  unfold lookupEnded
  have takesIn : Run.TakesIn (·.withReputation (ReputationReport.ofResult result)) :=
    takesIn_reputation fun _ told => ReputationReport.telling_ofResult told
  split
  · exact (labours_desk _).trans (labours_settle takesIn)
  · exact labours_settle takesIn

theorem labours_attemptEnded (errand : Errand) (attempt : Nat) (outcome : Outcome) :
    Labours service (service.attemptEnded sites id errand attempt outcome) := by
  unfold attemptEnded
  split
  next wait _ =>
    have labour : Labour service { service with
        agenda := service.agenda.enter (service.now + wait) (.send id errand (attempt + 1)) } :=
      .errands (List.forall_mem_singleton.mpr rfl)
    exact .single labour
  · cases errand with
    | logIn => exact labours_loginEnded _
    | lookup => exact labours_lookupEnded _
    | availability => exact labours_settle (takesIn_availability _)
    | snapshots => exact labours_settle (takesIn_snapshots _)

end Functions

end CheckService

end DomainScout
