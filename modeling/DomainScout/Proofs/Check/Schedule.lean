import DomainScout.Proofs.Check.Change
import DomainScout.Proofs.Schedule.Agenda

/-!
# Schedules

A schedule is what a service lives through: callers come at any moment, alone or by appointment,
what is on the agenda happens in any order, time passes, and what is stored is dropped. Running a
service means one such schedule, that in which the earliest event always comes first.

Main statement: `preserved_history`, what every change preserves holds along every schedule.
-/
namespace DomainScout

namespace CheckService

variable {σ : Type}

/-- One step of a schedule. -/
inductive Move where
  /-- A caller asks, and will wait for some milliseconds at most. -/
  | arrive (caller : Nat) (domain : Value) (patience : Option Nat)
  /-- The event at some place of the agenda happens, if there is one. -/
  | event (place : Nat)
  | advance (milliseconds : Nat)
  | clearCache
  | dropToken
  /-- Checks are put on the agenda, and new records of what is sent and answered are started. -/
  | ask (inquiries : List Inquiry)

/-- The event that happens when a move is made. -/
def eventOf? (service : CheckService σ) : Move → Option CheckEvent
  | .arrive caller domain patience => some (.arrive caller domain patience)
  | .event place => service.agenda[place]?.map Timed.item
  | _ => none

/-- Let the event at some place of the agenda happen. -/
def happen (sites : CheckSites σ) (service : CheckService σ) (place : Nat) : CheckService σ :=
  match service.agenda[place]? with
  | none => service
  | some timed => step sites { service with agenda := service.agenda.eraseIdx place } timed.item

/-- Make a move. -/
def perform (sites : CheckSites σ) (service : CheckService σ) : Move → CheckService σ
  | .arrive caller domain patience => service.arrive sites caller domain patience
  | .event place => service.happen sites place
  | .advance milliseconds => service.advance milliseconds
  | .clearCache => service.clearCache
  | .dropToken => service.dropToken
  | .ask inquiries => service.ask inquiries

/-- Make moves one after another. -/
def history (sites : CheckSites σ) (service : CheckService σ) (moves : List Move) :
    CheckService σ :=
  moves.foldl (perform sites) service

/-- What happens along a schedule. -/
def happened (sites : CheckSites σ) (service : CheckService σ) : List Move → List CheckEvent
  | [] => []
  | move :: moves => (service.eventOf? move).toList ++ happened sites (service.perform sites move) moves

section Moves

variable {sites : CheckSites σ} {service : CheckService σ}

theorem history_append (before after : List Move) :
    service.history sites (before ++ after) = (service.history sites before).history sites after :=
  List.foldl_append

/-- What happens along a schedule does so by one of its moves. -/
theorem exists_move_of_happened {moves : List Move} {event : CheckEvent}
    (happens : event ∈ service.happened sites moves) :
    ∃ earlier move later, moves = earlier ++ move :: later ∧
      (service.history sites earlier).eventOf? move = some event := by
  induction moves generalizing service with
  | nil => cases happens
  | cons move moves ih =>
    rcases List.mem_append.mp happens with now | then_
    · exact ⟨[], move, moves, rfl, Option.mem_toList.mp now⟩
    · obtain ⟨earlier, next, later, rfl, event⟩ := ih then_
      exact ⟨move :: earlier, next, later, rfl, event⟩

theorem agenda_split {place : Nat} {timed : Timed CheckEvent}
    (found : service.agenda[place]? = some timed) :
    ∃ before after, service.agenda = before ++ timed :: after ∧
      service.agenda.eraseIdx place = before ++ after := by
  obtain ⟨inside, here⟩ := List.getElem?_eq_some_iff.mp found
  refine ⟨List.take place service.agenda, List.drop (place + 1) service.agenda, ?_, ?_⟩
  · rw [← here, List.getElem_cons_drop, List.take_append_drop]
  · exact List.eraseIdx_eq_take_drop_succ _ _

/-- The ways in which a move can end. -/
inductive Performed (sites : CheckSites σ) (service : CheckService σ) (move : Move) :
    CheckService σ → Prop
  | changed {after : CheckService σ} (changes : Changes service after) (kept : move ≠ .clearCache)
      (remembered : ∀ id, service.eventOf? move ≠ some (.forget id)) :
      Performed sites service move after
  | recalled {caller : Nat} {domain : Value} {patience : Option Nat} {host : String}
      {report : Report} {agenda : Agenda CheckEvent}
      (event : service.eventOf? move = some (.arrive caller domain patience))
      (changes : Changes service { service with agenda }) (patient : patience ≠ some 0)
      (reads : Host.ofValue domain = .ok host)
      (stored : (service.cache.get service.cacheClock host).1 = some report) :
      Performed sites service move (answer { service with agenda } caller (.ok ⟨report, true⟩))
  | gaveUp {caller : Nat} {after : CheckService σ} (change : Change service after)
      (event : service.eventOf? move = some (.giveUp caller)) :
      Performed sites service move (after.giveUp caller)
  | forgot {id : RunId} {before rest : Agenda CheckEvent} {due : Nat}
      (place : service.agenda = before ++ ⟨due, .forget id⟩ :: rest)
      (event : service.eventOf? move = some (.forget id)) :
      Performed sites service move
        { service with agenda := before ++ rest, flights := service.flights.forget id }
  | passed {milliseconds : Nat} (passes : move = .advance milliseconds) :
      Performed sites service move (service.advance milliseconds)
  | cleared (clears : move = .clearCache) : Performed sites service move service.clearCache
  | asked {inquiries : List Inquiry} (asks : move = .ask inquiries) :
      Performed sites service move (service.ask inquiries)

theorem performed_arrive {move : Move} {agenda : Agenda CheckEvent} {caller : Nat} {domain : Value}
    {patience : Option Nat} (event : service.eventOf? move = some (.arrive caller domain patience))
    (taken : Changes service { service with agenda }) :
    Performed sites service move (arrive sites { service with agenda } caller domain patience) := by
  have kept : move ≠ .clearCache := by
    rintro rfl
    cases event
  have remembered : ∀ id, service.eventOf? move ≠ some (.forget id) :=
    fun id forgot => nomatch event.symm.trans forgot
  have ended := attended sites { service with agenda } caller domain patience
  generalize arrive sites { service with agenda } caller domain patience = outcome at ended ⊢
  cases ended with
  | changed changes => exact .changed (taken.trans changes) kept remembered
  | recalled patient reads stored => exact .recalled event taken patient reads stored

theorem performed (sites : CheckSites σ) (service : CheckService σ) (move : Move) :
    Performed sites service move (service.perform sites move) := by
  cases move with
  | arrive caller domain patience => exact performed_arrive rfl .refl
  | advance milliseconds => exact .passed rfl
  | clearCache => exact .cleared rfl
  | dropToken => exact .changed (labours_desk _).changes nofun nofun
  | ask inquiries => exact .asked rfl
  | event place =>
    change Performed sites service (.event place) (service.happen sites place)
    cases found : service.agenda[place]? with
    | none =>
      -- There is no event at this place, so nothing happens.
      have nothing : service.eventOf? (.event place) = none := by
        simp only [eventOf?, found, Option.map_none]
      have same : service.happen sites place = service := by simp only [happen, found]
      rw [same]
      exact .changed .refl nofun fun _ some => nomatch nothing.symm.trans some
    | some timed =>
      obtain ⟨before, after, place', rest⟩ := agenda_split found
      have event : service.eventOf? (.event place) = some timed.item := by
        simp only [eventOf?, found, Option.map_some]
      have same : service.happen sites place =
          step sites { service with agenda := before ++ after } timed.item := by
        simp only [happen, found, rest]
      rw [same]
      obtain ⟨due, item⟩ := timed
      cases item with
      | giveUp caller => exact .gaveUp (.taken place' nofun) event
      | forget id => exact .forgot place' event
      | arrive caller domain patience => exact performed_arrive event (.single (.taken place' nofun))
      | send id errand attempt =>
        exact .changed (.head (.taken place' nofun) (labours_send _ _).changes) nofun
          fun _ forgot => nomatch event.symm.trans forgot
      | ended id errand attempt outcome =>
        exact .changed (.head (.taken place' nofun) (labours_attemptEnded _ _ _).changes) nofun
          fun _ forgot => nomatch event.symm.trans forgot

/-- A caller who asks does so alone, or by an event that is taken from the agenda. -/
theorem perform_arrive {move : Move} {caller : Nat} {domain : Value} {patience : Option Nat}
    (event : service.eventOf? move = some (.arrive caller domain patience)) :
    ∃ agenda, service.perform sites move =
      arrive sites { service with agenda } caller domain patience := by
  cases move with
  | arrive =>
    cases event
    exact ⟨service.agenda, rfl⟩
  | event place =>
    obtain ⟨timed, found, item⟩ := Option.map_eq_some_iff.mp event
    refine ⟨service.agenda.eraseIdx place, ?_⟩
    simp only [perform, happen, found, item, step]
  | advance | clearCache | dropToken | ask => cases event

/-- What every change preserves, and the rest of what can happen too, is preserved by moves. -/
theorem preserved_perform {P : CheckService σ → Prop}
    (changed : ∀ {before after}, Change before after → P before → P after)
    (answered : ∀ {service} caller result, P service → P (service.answer caller result))
    (gaveUp : ∀ {service} caller, P service → P (service.giveUp caller))
    (forgot : ∀ {service before rest due id},
      service.agenda = before ++ ⟨due, .forget id⟩ :: rest → P service →
        P { service with agenda := before ++ rest, flights := service.flights.forget id })
    (passed : ∀ {service} milliseconds, P service → P (service.advance milliseconds))
    (cleared : ∀ {service}, P service → P service.clearCache)
    (asked : ∀ {service} inquiries, P service → P (service.ask inquiries)) {move : Move} (holds : P service) :
    P (service.perform sites move) := by
  have worked : ∀ {after}, Changes service after → P after := by
    intro after changes
    induction changes with
    | refl => exact holds
    | tail _ last ih => exact changed last ih
  have ended := performed sites service move
  generalize service.perform sites move = outcome at ended ⊢
  cases ended with
  | changed changes => exact worked changes
  | recalled _ changes => exact answered _ _ (worked changes)
  | gaveUp change => exact gaveUp _ (changed change holds)
  | forgot place => exact forgot place holds
  | passed => exact passed _ holds
  | cleared => exact cleared holds
  | asked => exact asked _ holds

/-- What moves preserve holds along every schedule. -/
theorem preserved_history {P : CheckService σ → Prop}
    (moved : ∀ {service} move, P service → P (service.perform sites move)) (holds : P service)
    (moves : List Move) : P (service.history sites moves) := by
  induction moves generalizing service with
  | nil => exact holds
  | cons move moves ih => exact ih (moved move holds)

/-- What is asked for is put on the agenda, behind all that is there. -/
theorem mem_agenda_ask {inquiries : List Inquiry} {timed : Timed CheckEvent}
    (member : timed ∈ (service.ask inquiries).agenda) :
    timed ∈ service.agenda ∨
      ∃ caller domain patience, timed.item = .arrive caller domain patience := by
  rcases List.mem_append.mp member with known | added
  · exact .inl known
  · obtain ⟨⟨inquiry, caller⟩, -, rfl⟩ := List.mem_map.mp added
    exact .inr ⟨caller, inquiry.domain, inquiry.patience, rfl⟩

/-! ### Running as a schedule -/

theorem exists_place_of_next? {α : Type} {agenda rest : Agenda α} {timed : Timed α}
    (next : agenda.next? = some (timed, rest)) :
    ∃ place, agenda[place]? = some timed ∧ agenda.eraseIdx place = rest := by
  obtain ⟨before, after, rfl, rfl, _, _⟩ := Agenda.split_of_next? next
  exact ⟨before.length, by simp, by simp [List.eraseIdx_append_of_length_le]⟩

/-- The move is one that a service makes on its own: time passes, or what is on the agenda happens. -/
def Move.isOwn : Move → Bool
  | .advance _ | .event _ => true
  | _ => false

/-- The earliest event happens after time has passed to its moment. -/
theorem exists_perform_of_next? {after : CheckService σ} (next : service.next? sites = some after) :
    ∃ milliseconds place, (service.advance milliseconds).perform sites (.event place) = after := by
  unfold next? at next
  obtain ⟨⟨timed, rest⟩, found, rfl⟩ := Option.map_eq_some_iff.mp next
  obtain ⟨place, here, without⟩ := exists_place_of_next? found
  have moment : service.now + (timed.due - service.now) = max service.now timed.due := by omega
  refine ⟨timed.due - service.now, place, ?_⟩
  simp only [perform, happen, advance, here, without, moment]

theorem exists_history_of_next? {after : CheckService σ} (next : service.next? sites = some after) :
    ∃ moves : List Move, (∀ move ∈ moves, move.isOwn = true) ∧ service.history sites moves = after := by
  obtain ⟨milliseconds, place, rfl⟩ := exists_perform_of_next? next
  exact ⟨[.advance milliseconds, .event place], by simp [Move.isOwn], rfl⟩

theorem exists_history_runFor (n : Nat) (service : CheckService σ) :
    ∃ moves : List Move, (∀ move ∈ moves, move.isOwn = true) ∧
      service.history sites moves = service.runFor sites n := by
  induction n generalizing service with
  | zero => exact ⟨[], nofun, rfl⟩
  | succ n ih =>
    unfold runFor
    split
    · exact ⟨[], nofun, rfl⟩
    next after next =>
      obtain ⟨first, own, earlier⟩ := exists_history_of_next? next
      obtain ⟨rest, own', later⟩ := ih after
      refine ⟨first ++ rest, ?_, by rw [history_append, earlier, later]⟩
      exact fun move member => (List.mem_append.mp member).elim (own move) (own' move)

/-- Running a service to the end is a schedule. -/
theorem exists_history_run (sites : CheckSites σ) (service : CheckService σ) :
    ∃ moves : List Move, (∀ move ∈ moves, move.isOwn = true) ∧
      service.history sites moves = service.run sites :=
  exists_history_runFor _ _

end Moves

end CheckService

end DomainScout
