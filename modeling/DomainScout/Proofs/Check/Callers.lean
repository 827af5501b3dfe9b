import DomainScout.Proofs.Check.Progress
import DomainScout.Proofs.Check.Storing
import Mathlib.Data.Multiset.AddSub
import Mathlib.Data.Multiset.MapFold

/-!
# Everyone who asks is answered

Callers come by appointment and wait for as long as it takes. Whoever has not come yet is on the agenda,
whoever comes is answered at once or waits for a run of the domain asked for, and whoever waits is
answered when that run ends. Nobody gets lost on the way, and nobody is counted twice, however many
callers share a run.

Main statement: `answered_once`.
-/
namespace DomainScout

/-- What somebody who asks for a domain can be told: that it is none, or a report on its host, or that the
check of the host broke down. -/
inductive Answers (domain : Value) : Except CheckError Checked → Prop
  | invalid {fault : Host.Invalid} (unreadable : Host.ofValue domain = .error fault) :
      Answers domain (.error (.invalidDomain fault))
  | reported {checked : Checked} (reads : Host.ofValue domain = .ok checked.report.domain)
      (telling : checked.report.Telling) : Answers domain (.ok checked)
  | broken {host : String} {crash : Crash} (reads : Host.ofValue domain = .ok host) :
      Answers domain (.error (.crash crash))

namespace CheckEvent

/-- The caller who comes. -/
def caller? : CheckEvent → Option Nat
  | .arrive caller _ _ => some caller
  | _ => none

/-- Callers come to ask what they are known to ask, and nobody gives up. -/
def Keeps (asked : Nat → Value) : CheckEvent → Prop
  | .arrive caller domain patience => domain = asked caller ∧ patience = none
  | .giveUp _ => False
  | .send _ _ _ | .ended _ _ _ _ | .forget _ => True

variable {event : CheckEvent}

theorem caller?_of_isErrand (errand : event.isErrand = true) : event.caller? = none := by
  cases event with
  | send | ended => rfl
  | arrive | giveUp | forget => cases errand

theorem keeps_of_isErrand (asked : Nat → Value) (errand : event.isErrand = true) : event.Keeps asked := by
  cases event with
  | send | ended => trivial
  | arrive | giveUp | forget => cases errand

end CheckEvent

/-- The callers who are still to come. -/
def arriving (agenda : Agenda CheckEvent) : Multiset Nat :=
  agenda.filterMap fun timed => timed.item.caller?

theorem arriving_append (agenda more : Agenda CheckEvent) :
    arriving (agenda ++ more) = arriving agenda + arriving more := by
  simp [arriving, List.filterMap_append]

theorem arriving_of_isErrand {agenda : Agenda CheckEvent}
    (only : ∀ timed ∈ agenda, timed.item.isErrand = true) : arriving agenda = 0 := by
  rw [arriving, List.filterMap_eq_nil_iff.mpr fun timed member =>
    CheckEvent.caller?_of_isErrand (only timed member)]
  rfl

theorem arriving_drop (agenda : Agenda CheckEvent) (callers : List Nat) :
    arriving (agenda.drop (CheckEvent.isGiveUpOf callers)) = arriving agenda := by
  unfold arriving Agenda.drop
  rw [List.filterMap_filter]
  congr 1
  apply List.filterMap_congr
  intro timed _
  cases timed.item <;> simp [CheckEvent.isGiveUpOf, CheckEvent.caller?]

namespace CheckService

variable {σ : Type} {sites : CheckSites σ} {service after : CheckService σ} {id : RunId}
  {asked : Nat → Value} {everyone : Multiset Nat} {caller : Nat}

/-- All callers: those who are to come, those who wait, and those who were answered. -/
def callers (service : CheckService σ) : Multiset Nat :=
  arriving service.agenda + service.waiters.map Waiter.caller + service.answers.map CheckAnswer.caller

/-- Everyone is to come, waits or was answered, and gets what they asked for. -/
structure Attends (asked : Nat → Value) (everyone : Multiset Nat) (service : CheckService σ) : Prop where
  events : ∀ timed ∈ service.agenda, timed.item.Keeps asked
  waiting : ∀ waiter ∈ service.waiters, Host.ofValue (asked waiter.caller) = .ok waiter.run.domain
  answered : ∀ answer ∈ service.answers, Answers (asked answer.caller) answer.result
  account : service.callers = everyone

namespace Attends

theorem finished (attends : Attends asked everyone service) (kept : Kept service) {run : Run}
    {outcome : Except Crash Report} (found : service.run? id = some run)
    (complete : run.result? = some outcome) : Attends asked everyone (service.finish id outcome) := by
  obtain ⟨member, named⟩ := mem_of_run? found
  -- What the run has come to is an answer to everyone who asked for its domain.
  have fits : ∀ domain, Host.ofValue domain = .ok id.domain → Answers domain (shared outcome) := by
    intro domain reads
    cases outcome with
    | error crash => exact .broken reads
    | ok report =>
      obtain ⟨about, telling⟩ := Run.of_result? complete
      rw [named] at about
      exact .reported (about ▸ reads) (telling (kept.telling run member))
  rw [finish_eq]
  refine ⟨?_, ?_, ?_, ?_⟩
  · intro timed entered
    rcases List.mem_append.mp entered with stays | new
    · exact attends.events timed (List.mem_filter.mp stays).1
    · cases List.mem_singleton.mp new
      trivial
  · exact fun waiter stays => attends.waiting waiter (List.mem_filter.mp stays).1
  · intro answer told
    rcases List.mem_append.mp told with earlier | now
    · exact attends.answered answer earlier
    · obtain ⟨caller, waited, rfl⟩ := List.mem_map.mp now
      obtain ⟨waiter, waits, rfl⟩ := List.mem_map.mp waited
      obtain ⟨waits, own⟩ := List.mem_filter.mp waits
      have reads := attends.waiting waiter waits
      rw [eq_of_beq own] at reads
      exact fits _ reads
  · -- Who waited for the run is among the answered now, and everyone else is where they were.
    have split : (service.waiters.map Waiter.caller : Multiset Nat) =
        ((service.waiters.filter (·.run == id)).map Waiter.caller : List Nat) +
          ((service.waiters.filter (·.run != id)).map Waiter.caller : List Nat) := by
      rw [Multiset.coe_add, ← List.map_append, Multiset.coe_eq_coe]
      exact ((List.filter_append_perm _ _).map _).symm
    have told : CheckAnswer.caller ∘ (fun caller => ⟨caller, service.now, shared outcome⟩) ∘ Waiter.caller =
        Waiter.caller := rfl
    have forgetting : arriving [⟨service.now, .forget id⟩] = 0 := rfl
    rw [← attends.account]
    simp only [callers, Agenda.enter, arriving_append, arriving_drop, forgetting, split, List.map_append,
      List.map_map, told, ← Multiset.coe_add]
    ac_rfl

theorem laboured (attends : Attends asked everyone service) (kept : Kept service)
    (labour : Labour service after) : Attends asked everyone after := by
  cases labour with
  | errands only =>
    refine ⟨?_, attends.waiting, attends.answered, ?_⟩
    · intro timed entered
      rcases List.mem_append.mp entered with known | new
      · exact attends.events timed known
      · exact CheckEvent.keeps_of_isErrand asked (only timed new)
    · rw [← attends.account, callers, callers, arriving_append, arriving_of_isErrand only, add_zero]
  | launched | noted => exact ⟨attends.events, attends.waiting, attends.answered, attends.account⟩
  | finished found unfinished complete => exact attends.finished kept found complete

theorem labours (attends : Attends asked everyone service) (kept : Kept service)
    (labours : Labours service after) : Attends asked everyone after ∧ Kept after := by
  induction labours with
  | refl => exact ⟨attends, kept⟩
  | tail _ last ih => exact ⟨ih.1.laboured ih.2 last, ih.2.changed last.change⟩

/-! Somebody comes. -/

theorem answer (attends : Attends asked everyone service) {result : Except CheckError Checked}
    (answers : Answers (asked caller) result) :
    Attends asked ({caller} + everyone) (service.answer caller result) := by
  refine ⟨attends.events, attends.waiting, ?_, ?_⟩
  · intro answer told
    rcases List.mem_append.mp told with earlier | now
    · exact attends.answered answer earlier
    · cases List.mem_singleton.mp now
      exact answers
  · simp only [← attends.account, callers, CheckService.answer, List.map_append, List.map_cons, List.map_nil,
      ← Multiset.coe_add, Multiset.coe_singleton]
    ac_rfl

theorem join (attends : Attends asked everyone service) (kept : Kept service)
    (reads : Host.ofValue (asked caller) = .ok id.domain) :
    Attends asked ({caller} + everyone) (service.join caller id none) := by
  unfold CheckService.join
  split
  next outcome past =>
    -- The run is over already, and its outcome is the answer.
    obtain ⟨run, found, ended⟩ := Option.bind_eq_some_iff.mp past
    obtain ⟨member, named⟩ := mem_of_run? found
    apply attends.answer
    cases outcome with
    | error crash => exact .broken reads
    | ok report =>
      obtain ⟨about, telling⟩ := kept.reports id report ⟨run, member, named, ended⟩
      exact .reported (about ▸ reads) telling
  · refine ⟨attends.events, ?_, attends.answered, ?_⟩
    · intro waiter waits
      rcases List.mem_append.mp waits with earlier | now
      · exact attends.waiting waiter earlier
      · cases List.mem_singleton.mp now
        exact reads
    · simp only [← attends.account, callers, List.map_append, List.map_cons, List.map_nil,
        ← Multiset.coe_add, Multiset.coe_singleton]
      ac_rfl

theorem share (attends : Attends asked everyone service) (kept : Kept service) {host : String}
    (reads : Host.ofValue (asked caller) = .ok host) (missing : service.cache.entry? host = none) :
    Attends asked ({caller} + everyone) (service.share sites caller host none) := by
  unfold CheckService.share
  split
  next id onRecord => exact attends.join kept ((Flights.mem_of_run? onRecord).2 ▸ reads)
  next unknown =>
    obtain ⟨launched, kept⟩ := attends.labours kept (labours_launch missing unknown)
    exact launched.join kept reads

theorem arrive (attends : Attends asked everyone service) (kept : Kept service) :
    Attends asked ({caller} + everyone) (service.arrive sites caller (asked caller) none) := by
  have patient : (none : Option Nat) ≠ some 0 := nofun
  rw [arrive_eq_attend patient, attend]
  split
  next fault unreadable => exact attends.answer (.invalid unreadable)
  next host reads =>
    have looked : Attends asked everyone
        { service with cache := (service.cache.get service.cacheClock host).2 } :=
      ⟨attends.events, attends.waiting, attends.answered, attends.account⟩
    cases stored : (service.cache.get service.cacheClock host).1 with
    | none =>
      simp only [stored]
      exact looked.share (kept.looked host) reads (Cache.entry?_of_get_eq_none stored)
    | some report =>
      -- A stored report is the outcome of a run of the same domain.
      simp only [stored]
      obtain ⟨entry, member, key, rfl, -⟩ := (Cache.get_eq_some kept.unique).mp stored
      obtain ⟨source, about, -, ended, -⟩ := kept.sources entry member
      obtain ⟨domain, telling⟩ := kept.reports source entry.value ended
      refine looked.answer (.reported ?_ telling)
      rw [reads, domain, about, key]

/-! Everything happens. -/

/-- Whoever an event on the agenda brings is not among the others any more once it is taken. -/
theorem taken (attends : Attends asked everyone service) {before later : Agenda CheckEvent}
    {timed : Timed CheckEvent} (place : service.agenda = before ++ timed :: later) :
    timed.item.Keeps asked ∧ ∃ others, everyone = arriving [timed] + others ∧
      Attends asked others { service with agenda := before ++ later } := by
  have all : ∀ other ∈ before ++ timed :: later, other.item.Keeps asked := place ▸ attends.events
  refine ⟨all timed (by simp), _, ?_, ⟨?_, attends.waiting, attends.answered, rfl⟩⟩
  · have front : timed :: later = [timed] ++ later := rfl
    simp only [← attends.account, callers, place, front, arriving_append]
    ac_rfl
  · intro other stays
    refine all other ?_
    rcases List.mem_append.mp stays with ahead | behind
    · exact List.mem_append_left _ ahead
    · exact List.mem_append_right _ (List.mem_cons_of_mem _ behind)

theorem perform (attends : Attends asked everyone service) (kept : Kept service) {move : Move}
    (own : move.isOwn = true) : Attends asked everyone (service.perform sites move) := by
  cases move with
  | arrive | clearCache | dropToken | ask => cases own
  | advance => exact ⟨attends.events, attends.waiting, attends.answered, attends.account⟩
  | event place =>
    change Attends asked everyone (service.happen sites place)
    unfold happen
    split
    · exact attends
    next timed here =>
      obtain ⟨before, later, agenda, erased⟩ := agenda_split here
      obtain ⟨keeps, others, rfl, left⟩ := attends.taken agenda
      obtain ⟨due, event⟩ := timed
      have kept' (other : ∀ id, event ≠ .forget id) : Kept { service with agenda := before ++ later } :=
        kept.changed (.taken agenda other)
      rw [erased]
      cases event with
      | giveUp => exact keeps.elim
      | arrive caller domain patience =>
        obtain ⟨rfl, rfl⟩ := keeps
        exact left.arrive (kept' nofun)
      | send id errand attempt =>
        exact (zero_add others).symm ▸ (left.labours (kept' nofun) (labours_send _ _)).1
      | ended id errand attempt outcome =>
        exact (zero_add others).symm ▸ (left.labours (kept' nofun) (labours_attemptEnded _ _ _)).1
      | forget =>
        exact (zero_add others).symm ▸ ⟨left.events, left.waiting, left.answered, left.account⟩

theorem history (attends : Attends asked everyone service) (kept : Kept service) {moves : List Move}
    (own : ∀ move ∈ moves, move.isOwn = true) : Attends asked everyone (service.history sites moves) := by
  induction moves generalizing service with
  | nil => exact attends
  | cons move moves ih =>
    rw [List.forall_mem_cons] at own
    exact ih (attends.perform kept own.1) (kept.perform move) own.2

end Attends

/-- What each caller of some inquiries asks. -/
def askedBy (inquiries : List Inquiry) (caller : Nat) : Value :=
  (inquiries[caller]?.map Inquiry.domain).getD .null

theorem attends_ask (server : σ) (credentials : Credentials) (lifetime : Measure) {inquiries : List Inquiry}
    (patient : ∀ inquiry ∈ inquiries, inquiry.patience = none) :
    Attends (askedBy inquiries) (List.range inquiries.length : List Nat)
      ((new server credentials lifetime).ask inquiries) := by
  refine ⟨?_, fun _ waits => (nomatch waits), fun _ told => (nomatch told), ?_⟩
  · intro timed entered
    obtain ⟨⟨inquiry, caller⟩, member, rfl⟩ := List.mem_map.mp entered
    have here : inquiries[caller]? = some inquiry := List.mem_zipIdx_iff_getElem?.mp member
    refine ⟨?_, patient inquiry (List.mem_of_getElem? here)⟩
    simp [askedBy, here]
  · have coming : arriving ((new server credentials lifetime).ask inquiries).agenda =
        (inquiries.zipIdx.map Prod.snd : List Nat) := by
      simp [arriving, ask, CheckService.new, List.filterMap_map, CheckEvent.caller?]
    rw [callers, coming, List.zipIdx_map_snd, ← List.range_eq_range']
    simp [ask, CheckService.new]

/-- Checks that are made together are each answered once, with an answer to what was asked. -/
theorem answered_once (sites : CheckSites σ) (server : σ) (credentials : Credentials)
    (lifetime : Measure) {inquiries : List Inquiry}
    (patient : ∀ inquiry ∈ inquiries, inquiry.patience = none) :
    let service := (new server credentials lifetime).check sites inquiries
    (service.answers.map CheckAnswer.caller).Perm (List.range inquiries.length) ∧
      ∀ answer ∈ service.answers, Answers (askedBy inquiries answer.caller) answer.result := by
  intro service
  obtain ⟨moves, own, runs⟩ := exists_history_run sites ((new server credentials lifetime).ask inquiries)
  have kept : Kept ((new server credentials lifetime).ask inquiries) :=
    kept_history sites server credentials lifetime [.ask inquiries]
  have attends := @Attends.history _ sites _ _ _ (attends_ask server credentials lifetime patient) kept _ own
  rw [runs] at attends
  change Attends _ _ service at attends
  have settled : Settled service := settled_run sites server credentials lifetime [.ask inquiries]
  refine ⟨?_, attends.answered⟩
  -- Nobody is still to come, and nobody waits.
  have account := attends.account
  rw [callers, settled.agenda, settled.waiters] at account
  exact Multiset.coe_eq_coe.mp (by simpa [arriving] using account)

end CheckService

end DomainScout
