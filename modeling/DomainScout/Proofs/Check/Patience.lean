import DomainScout.Proofs.Check.Schedule

/-!
# Giving up is private

Two services are alike that differ only in who has given up: the calm one has nobody give up, so it
may have more who wait and more who were answered. Whatever happens to both keeps them alike, for no
step asks who waits but to answer them. Nor does it matter to the others that somebody gives up.

Main statements: `Alike.step` and `Alike.gaveUp`.
-/
namespace DomainScout

/-- Patience without an end, unless there is none to begin with. -/
def endless : Option Nat → Option Nat
  | some 0 => some 0
  | _ => none

/-- What becomes of an event where nobody who waits gives up. -/
def CheckEvent.calm? : CheckEvent → Option CheckEvent
  | .arrive caller domain patience => some (.arrive caller domain (endless patience))
  | .giveUp _ => none
  | event => some event

/-- What becomes of it on the agenda: it is due as before. -/
def Timed.calm? (timed : Timed CheckEvent) : Option (Timed CheckEvent) :=
  timed.item.calm?.map (⟨timed.due, ·⟩)

/-- The agenda where nobody who waits gives up. -/
def calmed (agenda : Agenda CheckEvent) : Agenda CheckEvent := agenda.filterMap Timed.calm?

/-- It is what is kept of the agenda. -/
theorem calmed_eq_sift (agenda : Agenda CheckEvent) : calmed agenda = agenda.sift CheckEvent.calm? := rfl

theorem calmed_enter {event event' : CheckEvent} (kept : event.calm? = some event')
    (agenda : Agenda CheckEvent) (due : Nat) :
    calmed (agenda.enter due event) = (calmed agenda).enter due event' :=
  Agenda.sift_enter_some kept agenda due

theorem calmed_enter_giveUp (agenda : Agenda CheckEvent) (due caller : Nat) :
    calmed (agenda.enter due (.giveUp caller)) = calmed agenda :=
  Agenda.sift_enter_none rfl agenda due

theorem not_giveUp_of_mem_calmed {agenda : Agenda CheckEvent} {timed : Timed CheckEvent}
    (member : timed ∈ calmed agenda) (caller : Nat) : timed.item ≠ .giveUp caller := by
  obtain ⟨earlier, _, _, kept⟩ := Agenda.exists_of_mem_sift member
  intro gives
  rw [gives] at kept
  cases item : earlier.item <;> simp [CheckEvent.calm?, item] at kept

theorem calmed_drop (agenda : Agenda CheckEvent) (callers : List Nat) :
    calmed (agenda.drop (CheckEvent.isGiveUpOf callers)) = calmed agenda := by
  unfold calmed Agenda.drop
  rw [List.filterMap_filter]
  apply List.filterMap_congr
  rintro ⟨due, item⟩ _
  cases item <;> simp [Timed.calm?, CheckEvent.calm?, CheckEvent.isGiveUpOf]

/-- Where nobody gives up there is nothing to drop for those who are answered. -/
theorem drop_calmed (agenda : Agenda CheckEvent) (callers : List Nat) :
    (calmed agenda).drop (CheckEvent.isGiveUpOf callers) = calmed agenda := by
  apply List.filter_eq_self.mpr
  intro timed member
  cases item : timed.item with
  | giveUp caller => exact absurd item (not_giveUp_of_mem_calmed member caller)
  | arrive | send | ended | forget => rfl

namespace CheckService

open Remote

variable {σ : Type} {sites : CheckSites σ} {stays : Nat → Bool} {service calm : CheckService σ}

/-- The calm service is like the other one but for callers that do not stay. -/
structure Alike (stays : Nat → Bool) (service calm : CheckService σ) : Prop where
  same : calm = { service with
    waiters := calm.waiters, agenda := calm.agenda, answers := calm.answers }
  agenda : calm.agenda = calmed service.agenda
  waiters : calm.waiters.filter (stays ·.caller) = service.waiters.filter (stays ·.caller)
  answers : calm.answers.filter (stays ·.caller) = service.answers.filter (stays ·.caller)

namespace Alike

theorem intro {waiters : List Waiter} {answers : List CheckAnswer}
    (wait : waiters.filter (stays ·.caller) = service.waiters.filter (stays ·.caller))
    (answered : answers.filter (stays ·.caller) = service.answers.filter (stays ·.caller)) :
    Alike stays service { service with waiters, agenda := calmed service.agenda, answers } :=
  ⟨rfl, rfl, wait, answered⟩

/-- The calm service in full, so that it can be put in the place of its name. -/
theorem shape (alike : Alike stays service calm) : ∃ waiters answers,
    calm = { service with waiters, agenda := calmed service.agenda, answers } ∧
      waiters.filter (stays ·.caller) = service.waiters.filter (stays ·.caller) ∧
        answers.filter (stays ·.caller) = service.answers.filter (stays ·.caller) := by
  refine ⟨calm.waiters, calm.answers, ?_, alike.waiters, alike.answers⟩
  rw [← alike.agenda]
  exact alike.same

section Functions

variable (alike : Alike stays service calm)
include alike

/-! ### Entries and answers -/

theorem enter (due : Nat) {event event' : CheckEvent} (kept : event.calm? = some event') :
    Alike stays (service.enter due event) (calm.enter due event') := by
  obtain ⟨waiters, answers, rfl, wait, answered⟩ := alike.shape
  exact ⟨rfl, (calmed_enter kept service.agenda due).symm, wait, answered⟩

theorem answer (caller : Nat) (result : Except CheckError Checked) :
    Alike stays (service.answer caller result) (calm.answer caller result) := by
  obtain ⟨waiters, answers, rfl, wait, answered⟩ := alike.shape
  refine ⟨rfl, rfl, wait, ?_⟩
  simp [CheckService.answer, answered]

/-- That somebody gives up is nothing to those who stay. -/
theorem gaveUp {caller : Nat} (goes : stays caller = false) :
    Alike stays (service.giveUp caller) calm := by
  obtain ⟨waiters, answers, rfl, wait, answered⟩ := alike.shape
  refine ⟨rfl, rfl, ?_, ?_⟩
  · rw [wait]
    simp only [giveUp, CheckService.answer, List.filter_filter]
    apply List.filter_congr
    intro waiter _
    by_cases own : waiter.caller = caller <;> simp [own, goes]
  · simp [giveUp, CheckService.answer, answered, goes]

theorem updateRun (id : RunId) (change : Run → Run) :
    Alike stays (service.updateRun id change) (calm.updateRun id change) := by
  obtain ⟨waiters, answers, rfl, wait, answered⟩ := alike.shape
  exact ⟨rfl, rfl, wait, answered⟩

theorem store (outcome : Except Crash Report) :
    Alike stays (service.store outcome) (calm.store outcome) := by
  obtain ⟨waiters, answers, rfl, wait, answered⟩ := alike.shape
  cases outcome with
  | error crash => exact .intro wait answered
  | ok report =>
    by_cases clean : report.isClean
    · simp only [CheckService.store, clean, if_true]
      exact ⟨rfl, rfl, wait, answered⟩
    · simp only [CheckService.store, clean, Bool.false_eq_true, if_false]
      exact .intro wait answered

/-- Those who stay wait for the same runs, so they get the same answers. -/
theorem answerWaiters (id : RunId) (outcome : Except Crash Report) :
    Alike stays (service.answerWaiters id outcome) (calm.answerWaiters id outcome) := by
  obtain ⟨waiters, answers, rfl, wait, answered⟩ := alike.shape
  have staying (test : Waiter → Bool) :
      (waiters.filter test).filter (stays ·.caller) =
        (service.waiters.filter test).filter (stays ·.caller) := by
    rw [List.filter_comm, wait, List.filter_comm]
  constructor
  case same => rfl
  case agenda => simp [CheckService.answerWaiters, calmed_drop, drop_calmed]
  case waiters => exact staying _
  case answers =>
    have own := staying (·.run == id)
    simp only [CheckService.answerWaiters, List.filter_append, answered, List.map_map, List.filter_map]
    exact congrArg (fun waits => _ ++ List.map _ waits) own

theorem finish (id : RunId) (outcome : Except Crash Report) :
    Alike stays (service.finish id outcome) (calm.finish id outcome) := by
  have forgets : (CheckEvent.forget id).calm? = some (.forget id) := rfl
  have ended := (((alike.updateRun id fun run => { run with outcome := some outcome }).store
    outcome).answerWaiters id outcome).enter service.now forgets
  obtain ⟨waiters, answers, rfl, _, _⟩ := alike.shape
  exact ended

theorem conclude (id : RunId) : Alike stays (service.conclude id) (calm.conclude id) := by
  have same : calm.run? id = service.run? id := by
    rw [alike.same]
    rfl
  unfold CheckService.conclude
  rw [same]
  cases service.run? id with
  | none => exact alike
  | some run =>
    cases ended : run.outcome with
    | some outcome => simpa [ended] using alike
    | none =>
      cases complete : run.result? with
      | none => simpa [ended, complete] using alike
      | some outcome => simpa [ended, complete] using alike.finish id outcome

theorem settle (id : RunId) (change : Run → Run) :
    Alike stays (service.settle id change) (calm.settle id change) :=
  (alike.updateRun id change).conclude id

/-! ### Errands and the desk -/

theorem send (id : RunId) (errand : Errand) (attempt : Nat) :
    Alike stays (service.send sites id errand attempt) (calm.send sites id errand attempt) := by
  obtain ⟨waiters, answers, rfl, wait, answered⟩ := alike.shape
  have cut : isCutOff { service with waiters, agenda := calmed service.agenda, answers } id errand =
      service.isCutOff id errand := rfl
  unfold CheckService.send
  rw [cut]
  by_cases off : service.isCutOff id errand = true
  · simp only [off, if_true]
    exact (Alike.intro wait answered).enter _ rfl
  · simp only [off]
    exact ⟨rfl, (calmed_enter rfl service.agenda _).symm, wait, answered⟩

theorem follow (id : RunId) (direction : Direction) :
    Alike stays (service.follow sites id direction) (calm.follow sites id direction) := by
  cases direction with
  | wait => exact alike
  | logIn user password => exact alike.send id (.logIn user password) 1
  | take grant =>
    unfold CheckService.follow
    dsimp only
    split
    next token _ => exact alike.send id (.lookup token) 1
    next => exact alike.settle id _

theorem followAll (directions : List (RunId × Direction)) :
    Alike stays (service.followAll sites directions) (calm.followAll sites directions) := by
  induction directions generalizing service calm with
  | nil => exact alike
  | cons first rest ih => exact ih (alike.follow first.1 first.2)

theorem withDesk (desk : Desk RunId) :
    Alike stays { service with desk } { calm with desk } := by
  obtain ⟨waiters, answers, rfl, wait, answered⟩ := alike.shape
  exact ⟨rfl, rfl, wait, answered⟩

theorem dropToken : Alike stays service.dropToken calm.dropToken := by
  have dropped := alike.withDesk service.desk.invalidate
  obtain ⟨waiters, answers, rfl, _, _⟩ := alike.shape
  exact dropped

theorem resume (id : RunId) (token : Except CallError Token) :
    Alike stays (service.resume sites id token) (calm.resume sites id token) := by
  unfold CheckService.resume
  split
  next => exact alike.follow id _
  next => exact alike.settle id _
  next => exact alike.settle id _

theorem loginEnded (id : RunId) (token : Except CallError Token) :
    Alike stays (service.loginEnded sites id token) (calm.loginEnded sites id token) := by
  have closed := alike.withDesk (service.desk.loggedIn (service.deskClock sites) token.toOption).2
  obtain ⟨waiters, answers, rfl, _, _⟩ := alike.shape
  exact (closed.resume id token).followAll _

theorem lookupEnded (id : RunId) (result : Except CallError Response) :
    Alike stays (service.lookupEnded id result) (calm.lookupEnded id result) := by
  unfold CheckService.lookupEnded
  by_cases rejected : rejectsToken result = true
  · simp only [rejected, if_true]
    exact alike.dropToken.settle id _
  · simp only [rejected]
    exact alike.settle id _

theorem attemptEnded (id : RunId) (errand : Errand) (attempt : Nat) (outcome : Outcome) :
    Alike stays (service.attemptEnded sites id errand attempt outcome)
      (calm.attemptEnded sites id errand attempt outcome) := by
  have now : calm.now = service.now := by rw [alike.same]
  unfold CheckService.attemptEnded
  split
  next wait _ =>
    rw [now]
    exact alike.enter _ rfl
  next =>
    cases errand with
    | logIn user password =>
      have clock : calm.deskClock sites = service.deskClock sites := by
        rw [deskClock, deskClock, now]
      unfold errandEnded
      dsimp only
      rw [clock]
      exact alike.loginEnded id _
    | lookup token => exact alike.lookupEnded id _
    | availability => exact alike.settle id _
    | snapshots => exact alike.settle id _

/-! ### Callers -/

theorem launch (id : RunId) : Alike stays (service.launch sites id) (calm.launch sites id) := by
  obtain ⟨waiters, answers, rfl, wait, answered⟩ := alike.shape
  have boarded : Alike stays
      { service with
        desk := (service.desk.ask (service.deskClock sites) id).2
        runs := service.runs ++ [Run.new id]
        flights := service.flights.board id }
      { service with
        waiters, agenda := calmed service.agenda, answers
        desk := (service.desk.ask (service.deskClock sites) id).2
        runs := service.runs ++ [Run.new id]
        flights := service.flights.board id } := ⟨rfl, rfl, wait, answered⟩
  exact ((boarded.follow id _).send id .availability 1).send id .snapshots 1

/-- However long a caller would wait, in the calm service it is without an end. -/
theorem join (caller : Nat) (id : RunId) (patience : Option Nat) :
    Alike stays (service.join caller id patience) (calm.join caller id none) := by
  have same : calm.run? id = service.run? id := by
    rw [alike.same]
    rfl
  unfold CheckService.join
  rw [same]
  cases (service.run? id).bind Run.outcome with
  | some outcome => exact alike.answer caller _
  | none =>
    obtain ⟨waiters, answers, rfl, wait, answered⟩ := alike.shape
    have both (more : List Waiter) : (waiters ++ more).filter (stays ·.caller) =
        (service.waiters ++ more).filter (stays ·.caller) := by
      rw [List.filter_append, List.filter_append, wait]
    cases patience with
    | none => exact ⟨rfl, rfl, both _, answered⟩
    | some milliseconds => exact ⟨rfl, (calmed_enter_giveUp _ _ _).symm, both _, answered⟩

theorem share (caller : Nat) (host : String) (patience : Option Nat) :
    Alike stays (service.share sites caller host patience) (calm.share sites caller host none) := by
  have same : calm.flights = service.flights ∧ calm.nextRun host = service.nextRun host := by
    rw [alike.same]
    exact ⟨rfl, rfl⟩
  unfold CheckService.share
  rw [same.1, same.2]
  cases service.flights.run? host with
  | some id => exact alike.join caller id patience
  | none => exact (alike.launch _).join caller _ patience

theorem attend (caller : Nat) (domain : Value) (patience : Option Nat) :
    Alike stays (service.attend sites caller domain patience) (calm.attend sites caller domain none) := by
  unfold CheckService.attend
  cases Host.ofValue domain with
  | error invalid => exact alike.answer caller _
  | ok host =>
    obtain ⟨waiters, answers, rfl, wait, answered⟩ := alike.shape
    have looked : Alike stays
        { service with cache := (service.cache.get service.cacheClock host).2 }
        { service with
          waiters, agenda := calmed service.agenda, answers
          cache := (service.cache.get service.cacheClock host).2 } := ⟨rfl, rfl, wait, answered⟩
    have clock : cacheClock { service with waiters, agenda := calmed service.agenda, answers } =
        service.cacheClock := rfl
    dsimp only
    rw [clock]
    cases (service.cache.get service.cacheClock host).1 with
    | some report => exact looked.answer caller _
    | none => exact looked.share caller host patience

theorem arrive (caller : Nat) (domain : Value) (patience : Option Nat) :
    Alike stays (service.arrive sites caller domain patience)
      (calm.arrive sites caller domain (endless patience)) := by
  cases patience with
  | none => exact alike.attend caller domain none
  | some milliseconds =>
    cases milliseconds with
    | zero => exact alike.answer caller _
    | succ more => exact alike.attend caller domain _

theorem forget (id : RunId) :
    Alike stays { service with flights := service.flights.forget id }
      { calm with flights := calm.flights.forget id } := by
  obtain ⟨waiters, answers, rfl, wait, answered⟩ := alike.shape
  exact ⟨rfl, rfl, wait, answered⟩

/-- The same event keeps two services alike. -/
theorem step {event event' : CheckEvent} (kept : event.calm? = some event') :
    Alike stays (service.step sites event) (calm.step sites event') := by
  cases event with
  | giveUp caller => cases kept
  | arrive caller domain patience =>
    cases kept
    exact alike.arrive caller domain patience
  | send id errand attempt =>
    cases kept
    exact alike.send id errand attempt
  | ended id errand attempt outcome =>
    cases kept
    exact alike.attemptEnded id errand attempt outcome
  | forget id =>
    cases kept
    exact alike.forget id

end Functions

end Alike

end CheckService

end DomainScout
