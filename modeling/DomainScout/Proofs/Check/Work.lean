import DomainScout.Proofs.Check.SingleFlight
import DomainScout.Proofs.Access.Desk
import DomainScout.Proofs.Schedule.Agenda

/-!
# The work of a check service

Every event takes more work from a service than it leads to. So the bound on the events that can
still happen is one, and running a service empties its agenda.

Main statement: `agenda_run`.
-/
namespace DomainScout

open Remote

/-- An attempt is one of those that a request gets. -/
def CheckEvent.isPrompt : CheckEvent → Bool
  | .send _ _ attempt | .ended _ _ attempt _ => attempt ≤ 3
  | _ => true

/-- A bound on the work that a run has before it which was told something at the desk. -/
def Direction.work : Direction → Nat
  | .wait => 0
  | .logIn _ _ => 12
  | .take _ => 6

theorem Direction.work_le (direction : Direction) : direction.work ≤ 12 := by
  cases direction <;> simp [work]

theorem waitingWork_eq : waitingWork = 13 := rfl

theorem attemptWork_one : attemptWork 1 = 6 := rfl

namespace CheckService

variable {σ : Type} {sites : CheckSites σ} {service after last : CheckService σ} {id : RunId}

/-- All attempts are among those that requests get. -/
def Prompt (service : CheckService σ) : Prop :=
  ∀ timed ∈ service.agenda, timed.item.isPrompt = true

theorem attempts_le (plan : Plan) : plan.attempts ≤ 3 := by
  have few : (min plan.retries maxRetries + 1).toNat ≤ 3 := by
    unfold maxRetries
    omega
  unfold Plan.attempts
  omega

/-- What leads to some work at most. -/
structure Adds (service : CheckService σ) (work : Nat) (after : CheckService σ) : Prop where
  bound : after.work ≤ service.work + work
  prompt : service.Prompt → after.Prompt

namespace Adds

theorem refl : Adds service 0 service := ⟨Nat.le_refl _, id⟩

theorem trans {first second : Nat} (one : Adds service first after) (other : Adds after second last) :
    Adds service (first + second) last := by
  refine ⟨?_, fun prompt => other.prompt (one.prompt prompt)⟩
  have := one.bound
  have := other.bound
  omega

theorem mono {less more : Nat} (adds : Adds service less after) (le : less ≤ more) :
    Adds service more after := by
  refine ⟨?_, adds.prompt⟩
  have := adds.bound
  omega

/-- Two services with the same agenda, whose desks keep equally many waiting, have the same work. -/
theorem same (agenda : after.agenda = service.agenda)
    (waiting : after.desk.waiting.length = service.desk.waiting.length) : Adds service 0 after := by
  refine ⟨?_, ?_⟩
  · rw [CheckService.work, CheckService.work, agenda, waiting]
    exact Nat.le_refl _
  · unfold Prompt
    rw [agenda]
    exact id

/-- What changes neither the agenda nor the desk makes no work. -/
theorem quiet {work : Nat} (agenda : after.agenda = service.agenda) (desk : after.desk = service.desk) :
    Adds service work after := by
  have equal : Adds service 0 after := .same agenda (congrArg (·.waiting.length) desk)
  exact equal.mono (Nat.zero_le work)

theorem enter (due : Nat) {event : CheckEvent} (prompt : event.isPrompt = true) :
    Adds service event.work (service.enter due event) := by
  refine ⟨?_, ?_⟩
  · simp only [CheckService.work, CheckService.enter, Agenda.total_enter]
    omega
  · intro earlier timed member
    rcases List.mem_append.mp member with known | added
    · exact earlier timed known
    · cases List.mem_singleton.mp added
      exact prompt

end Adds

theorem adds_send {errand : Errand} {attempt : Nat} (prompt : attempt ≤ 3) :
    Adds service (attemptWork attempt - 1 + errand.work) (service.send sites id errand attempt) := by
  obtain ⟨server, sent, due, outcome, eq⟩ := send_eq sites service id errand attempt
  have entered : Adds { service with server, sent }
      (CheckEvent.ended id errand attempt outcome).work
      { service with server, sent, agenda := service.agenda.enter due (.ended id errand attempt outcome) } :=
    .enter due (decide_eq_true prompt)
  rw [eq]
  exact ⟨entered.bound, entered.prompt⟩

theorem adds_first (errand : Errand) :
    Adds service (5 + errand.work) (service.send sites id errand 1) :=
  adds_send (by decide : 1 ≤ 3)

theorem adds_settle (change : Run → Run) : Adds service 1 (service.settle id change) := by
  have ended := concluded (service.updateRun id change) id
  unfold settle
  generalize (service.updateRun id change).conclude id = outcome at ended ⊢
  cases ended with
  | left => exact .quiet rfl rfl
  | @finished run outcome =>
    rw [finish_eq]
    refine ⟨?_, ?_⟩
    · -- Only that the run is forgotten is put down; those who wait no longer give up.
      have fewer := Agenda.total_drop_le CheckEvent.work service.agenda (CheckEvent.isGiveUpOf
        ((service.waiters.filter (·.run == id)).map Waiter.caller))
      have forgets : (CheckEvent.forget id).work = 1 := rfl
      simp only [work, Agenda.total_enter, updateRun]
      omega
    · intro prompt timed member
      rcases List.mem_append.mp member with known | added
      · exact prompt timed (List.mem_filter.mp known).1
      · cases List.mem_singleton.mp added
        rfl

theorem adds_follow (direction : Direction) :
    Adds service direction.work (service.follow sites id direction) := by
  cases direction with
  | wait => exact .refl
  | logIn user password => exact adds_first (.logIn user password)
  | take grant =>
    have taken : Adds service 6 (service.follow sites id (.take grant)) := by
      unfold follow
      simp only
      split
      next token _ => exact adds_first (.lookup token)
      · exact (adds_settle _).mono (by omega)
    exact taken

/-- Those who no longer wait at the desk make less work than when they waited. -/
theorem adds_followAll (directions : List (RunId × Direction)) :
    Adds service (12 * directions.length) (service.followAll sites directions) := by
  induction directions generalizing service with
  | nil => exact .refl
  | cons first rest ih =>
    have told := first.2.work_le
    have followed : Adds service first.2.work (service.follow sites first.1 first.2) := adds_follow _
    refine (followed.trans ih).mono ?_
    rw [List.length_cons]
    omega

/-- A run that is launched has the desk to wait for, and two errands to the archive. -/
theorem adds_launch : Adds service 25 (service.launch sites id) := by
  let outcome := service.desk.ask (service.deskClock sites) id
  let boarded := { service with
    desk := outcome.2, runs := service.runs ++ [Run.new id], flights := service.flights.board id }
  have asked := service.desk.asked (service.deskClock sites) id
  have served : Adds service 13 (boarded.follow sites id outcome.1) := by
    change Desk.Asked _ _ _ outcome at asked
    -- Whoever is told something makes its own work, and whoever waits counts with the desk.
    have direct : outcome.2.waiting.length = service.desk.waiting.length →
        Adds service 13 (boarded.follow sites id outcome.1) := by
      intro waiting
      have same : Adds service 0 boarded := .same rfl waiting
      have told := outcome.1.work_le
      exact (same.trans (adds_follow _)).mono (by omega)
    have waits : outcome.1 = .wait → outcome.2.waiting = service.desk.waiting ++ [id] →
        Adds service 13 (boarded.follow sites id outcome.1) := by
      intro told waiting
      rw [told]
      refine ⟨?_, fun prompt => prompt⟩
      change work boarded ≤ _
      simp only [work, boarded, waiting, List.length_append, List.length_cons, List.length_nil, waitingWork_eq]
      omega
    clear_value outcome
    cases asked with
    | key | missing | cached | logIn => exact direct rfl
    | wait => exact waits rfl rfl
  exact (served.trans (adds_first .availability)).trans (adds_first .snapshots)

theorem adds_join {caller : Nat} {patience : Option Nat} :
    Adds service 1 (service.join caller id patience) := by
  unfold join
  split
  · exact .quiet rfl rfl
  · cases patience with
    | none => exact .quiet rfl rfl
    | some milliseconds =>
      have entered : Adds { service with waiters := service.waiters ++ [⟨caller, id⟩] } 1 _ :=
        .enter (service.now + milliseconds) (show (CheckEvent.giveUp caller).isPrompt = true from rfl)
      exact ⟨entered.bound, entered.prompt⟩

theorem adds_share {caller : Nat} {host : String} {patience : Option Nat} :
    Adds service 26 (service.share sites caller host patience) := by
  unfold share
  split
  · exact adds_join.mono (by omega)
  · exact adds_launch.trans adds_join

theorem adds_arrive (caller : Nat) (domain : Value) (patience : Option Nat) :
    Adds service 26 (service.arrive sites caller domain patience) := by
  unfold arrive
  split
  · exact .quiet rfl rfl
  · unfold attend
    split
    · exact .quiet rfl rfl
    next host _ =>
      simp only
      split
      · exact .quiet rfl rfl
      · have looked : Adds service 0
            { service with cache := (service.cache.get service.cacheClock host).2 } := .same rfl rfl
        exact looked.trans adds_share

theorem adds_resume (token : Except CallError Token) :
    Adds service 6 (service.resume sites id token) := by
  unfold resume
  split
  · exact adds_follow (.take _)
  · exact (adds_settle _).mono (by omega)
  · exact (adds_settle _).mono (by omega)

/-- Whoever is told something when a login has ended no longer waits. -/
theorem adds_loginEnded (token : Except CallError Token) :
    Adds service 6 (service.loginEnded sites id token) := by
  let outcome := service.desk.loggedIn (service.deskClock sites) token.toOption
  have told : Desk.Told (service.desk.close token.toOption) outcome := Desk.told_loggedIn _ _ _
  have queue : service.desk.waiting.length = outcome.1.length + outcome.2.waiting.length := by
    have lengths := congrArg List.length told.queue
    rw [List.length_append, List.length_map] at lengths
    exact lengths
  have resumed : Adds { service with desk := outcome.2 } 6
      (resume sites { service with desk := outcome.2 } id token) := adds_resume token
  have followed : Adds { service with desk := outcome.2 } (6 + 12 * outcome.1.length)
      (service.loginEnded sites id token) := resumed.trans (adds_followAll outcome.1)
  -- What the directions add is less than what their clients counted for while they waited.
  refine ⟨?_, followed.prompt⟩
  have bound := followed.bound
  simp only [work, waitingWork_eq] at bound ⊢
  omega

/-- The end of an attempt leads to less work than was put down for it. -/
theorem adds_attemptEnded {errand : Errand} {attempt : Nat} (prompt : attempt ≤ 3) (outcome : Outcome) :
    Adds service (attemptWork attempt - 2 + errand.work)
      (service.attemptEnded sites id errand attempt outcome) := by
  unfold attemptEnded
  split
  next wait again =>
    -- Another attempt is made only while there are some left.
    have few : attempt < 3 := by
      unfold Plan.verdict at again
      split at again
      next passes =>
        have earlier := (Bool.and_eq_true _ _ ▸ passes).2
        exact Nat.lt_of_lt_of_le (of_decide_eq_true earlier) (attempts_le _)
      · cases again
    have entered : Adds service (CheckEvent.send id errand (attempt + 1)).work
        (service.enter (service.now + wait) (.send id errand (attempt + 1))) :=
      .enter _ (decide_eq_true few)
    refine entered.mono ?_
    simp only [CheckEvent.work, attemptWork]
    omega
  · have left : 1 ≤ attemptWork attempt - 1 := by
      unfold attemptWork
      omega
    cases errand with
    | logIn user password => exact (adds_loginEnded _).mono (by simp only [Errand.work, attemptWork]; omega)
    | lookup token =>
      refine Adds.mono ?_ (Nat.le_add_left 1 _)
      unfold errandEnded lookupEnded
      have dropped : Adds service 0 service.dropToken := .same rfl rfl
      simp only
      split
      · exact dropped.trans (adds_settle _)
      · exact adds_settle _
    | availability => exact (adds_settle _).mono (Nat.le_add_left 1 _)
    | snapshots => exact (adds_settle _).mono (Nat.le_add_left 1 _)

/-- Every event leads to less work than it takes from the agenda. -/
theorem adds_step {event : CheckEvent} (prompt : event.isPrompt = true) :
    Adds service (event.work - 1) (service.step sites event) := by
  cases event with
  | arrive caller domain patience =>
    refine (adds_arrive _ _ _).mono ?_
    simp only [CheckEvent.work, waitingWork_eq, attemptWork_one]
    omega
  | giveUp caller => exact .quiet rfl rfl
  | send id errand attempt =>
    have prompt : attempt ≤ 3 := of_decide_eq_true prompt
    refine (adds_send prompt).mono ?_
    simp only [CheckEvent.work, attemptWork]
    omega
  | ended id errand attempt outcome =>
    have prompt : attempt ≤ 3 := of_decide_eq_true prompt
    refine (adds_attemptEnded prompt outcome).mono ?_
    simp only [CheckEvent.work, attemptWork]
    omega
  | forget id => exact .quiet rfl rfl

theorem event_work_pos (event : CheckEvent) : 1 ≤ event.work := by
  have errands : ∀ errand : Errand, 1 ≤ errand.work := by
    intro errand
    cases errand <;> simp [Errand.work]
  cases event with
  | arrive | giveUp | forget => simp [CheckEvent.work]
  | send id errand | ended id errand =>
    have errand := errands errand
    simp only [CheckEvent.work]
    omega

theorem work_of_split {before rest : Agenda CheckEvent} {timed : Timed CheckEvent}
    (place : service.agenda = before ++ timed :: rest) (now : Nat) :
    service.work = timed.item.work + work { service with agenda := before ++ rest, now } := by
  simp only [work, place, Agenda.total_append, Agenda.total_cons]
  omega

/-- Work decreases with every event. -/
theorem work_next?_lt (prompt : service.Prompt) (next : service.next? sites = some after) :
    after.work < service.work ∧ after.Prompt := by
  unfold next? at next
  obtain ⟨⟨timed, rest⟩, found, rfl⟩ := Option.map_eq_some_iff.mp next
  obtain ⟨place, here, without⟩ := exists_place_of_next? found
  obtain ⟨before, later, agenda, erased⟩ := agenda_split here
  have apart := without.symm.trans erased
  subst apart
  let taken : CheckService σ :=
    { service with agenda := before ++ later, now := max service.now timed.due }
  have whole : service.work = timed.item.work + taken.work := work_of_split agenda _
  have positive := event_work_pos timed.item
  have adds : Adds taken (timed.item.work - 1) (taken.step sites timed.item) :=
    adds_step (prompt timed (List.mem_of_getElem? here))
  refine ⟨?_, adds.prompt fun other member => prompt other ?_⟩
  · have bound := adds.bound
    change work (taken.step sites timed.item) < service.work
    omega
  · rw [agenda]
    rcases List.mem_append.mp member with early | late
    · exact List.mem_append_left _ early
    · exact List.mem_append_right _ (List.mem_cons_of_mem _ late)

theorem agenda_runFor {n : Nat} (enough : service.work ≤ n) (prompt : service.Prompt) :
    (service.runFor sites n).agenda = [] := by
  induction n generalizing service with
  | zero =>
    change service.agenda = []
    cases agenda : service.agenda with
    | nil => rfl
    | cons first rest =>
      have split : service.work = first.item.work + _ := @work_of_split _ service [] rest first agenda 0
      have positive := event_work_pos first.item
      omega
  | succ n ih =>
    unfold runFor
    split
    next stopped => exact Agenda.eq_nil_of_next? (Option.map_eq_none_iff.mp stopped)
    next after next =>
      obtain ⟨less, prompt⟩ := work_next?_lt prompt next
      exact ih (by omega) prompt

/-- Running a service empties its agenda. -/
theorem agenda_run (prompt : service.Prompt) : (service.run sites).agenda = [] :=
  agenda_runFor (Nat.le_refl _) prompt

theorem prompt_new (server : σ) (credentials : Credentials) (lifetime : Measure) :
    Prompt (new server credentials lifetime) :=
  fun _ member => nomatch member

theorem Prompt.perform (prompt : service.Prompt) (move : Move) :
    (service.perform sites move).Prompt := by
  cases move with
  | arrive caller domain patience => exact (adds_arrive _ _ _).prompt prompt
  | advance | clearCache | dropToken => exact prompt
  | ask inquiries =>
    intro timed member
    rcases mem_agenda_ask member with known | ⟨caller, domain, patience, arrives⟩
    · exact prompt timed known
    · rw [arrives]
      rfl
  | event place =>
    change Prompt (service.happen sites place)
    unfold happen
    split
    · exact prompt
    next timed here =>
      refine (adds_step (prompt timed (List.mem_of_getElem? here))).prompt ?_
      intro other member
      exact prompt other (List.mem_of_mem_eraseIdx member)

theorem prompt_history (sites : CheckSites σ) (server : σ) (credentials : Credentials)
    (lifetime : Measure) (moves : List Move) :
    Prompt ((new server credentials lifetime).history sites moves) :=
  preserved_history (fun move prompt => prompt.perform move) (prompt_new _ _ _) moves

end CheckService

end DomainScout
