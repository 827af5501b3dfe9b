import DomainScout.Proofs.Check.Progress

/-!
# Checks of one domain share a run

All that is said here of a service holds at any moment of any schedule: however callers come and
give up, runs end, and stored reports are dropped.

Main statement: `single_flight`.
-/
namespace DomainScout.CheckService

variable {σ : Type} {sites : CheckSites σ} {service after : CheckService σ} {id : RunId}

/-! ### Who shares a run -/

/-- A caller who shares a run waits for it, or has got what it ended with since the given answers. -/
def Served (service : CheckService σ) (earlier : List CheckAnswer) (caller : Nat) (id : RunId) :
    Prop :=
  ∃ newer, service.answers = earlier ++ newer ∧
    (⟨caller, id⟩ ∈ service.waiters ∨ ∃ answer ∈ newer, answer.caller = caller ∧
      ∃ outcome, service.EndedWith id outcome ∧ answer.result = shared outcome)

variable {earlier : List CheckAnswer} {caller : Nat}

namespace Served

/-- A caller stays served when only more answers and more waiters are added. -/
theorem mono (served : Served service earlier caller id)
    (answers : ∃ newer, after.answers = service.answers ++ newer)
    (waiters : ∀ waiter ∈ service.waiters, waiter ∈ after.waiters)
    (ended : ∀ outcome, service.EndedWith id outcome → after.EndedWith id outcome) :
    Served after earlier caller id := by
  obtain ⟨newer, grown, state⟩ := served
  obtain ⟨newest, grown'⟩ := answers
  refine ⟨newer ++ newest, by rw [grown', grown, List.append_assoc], ?_⟩
  rcases state with waits | ⟨answer, member, own, outcome, past, told⟩
  · exact .inl (waiters _ waits)
  · exact .inr ⟨answer, List.mem_append_left _ member, own, outcome, ended outcome past, told⟩

theorem finished (served : Served service earlier caller id) (tracked : Tracked service)
    {other : RunId} {run : Run} {outcome : Except Crash Report} (found : service.run? other = some run) (unfinished : run.outcome = none)
    (complete : run.result? = some outcome) : Served (service.finish other outcome) earlier caller id := by
  have change : Change service (service.finish other outcome) := .finished found unfinished complete
  have itself : (service.finish other outcome).EndedWith other outcome := endedWith_finish found outcome
  obtain ⟨newer, grown, state⟩ := served
  rw [finish_eq] at itself ⊢
  refine ⟨newer ++ _, by rw [grown, List.append_assoc], ?_⟩
  rcases state with waits | ⟨answer, member, own, outcome', past, told⟩
  · -- Whoever waited for the run is answered when it ends, and nobody else stops waiting.
    by_cases own : id = other
    · subst own
      refine .inr ⟨⟨caller, service.now, shared outcome⟩, List.mem_append_right _ ?_, rfl, outcome,
        itself, rfl⟩
      refine List.mem_map.mpr ⟨caller, List.mem_map.mpr ⟨_, List.mem_filter.mpr ⟨waits, ?_⟩, rfl⟩, rfl⟩
      exact beq_self_eq_true id
    · exact .inl (List.mem_filter.mpr ⟨waits, bne_iff_ne.mpr own⟩)
  · have ended := change.endedWith tracked past
    rw [finish_eq] at ended
    exact .inr ⟨answer, List.mem_append_left _ member, own, outcome', ended, told⟩

theorem changed (served : Served service earlier caller id) (tracked : Tracked service)
    (change : Change service after) : Served after earlier caller id := by
  have ended : ∀ outcome, service.EndedWith id outcome → after.EndedWith id outcome :=
    fun _ => change.endedWith tracked
  cases change with
  | errands | looked | launched | noted | taken =>
    exact served.mono ⟨[], (List.append_nil _).symm⟩ (fun _ waits => waits) ended
  | refused => exact served.mono ⟨_, rfl⟩ (fun _ waits => waits) ended
  | @joined caller' host other patience onRecord =>
    have how := CheckService.joined service caller' other patience
    generalize service.join caller' other patience = outcome at how ended ⊢
    cases how with
    | answered => exact served.mono ⟨_, rfl⟩ (fun _ waits => waits) ended
    | waits =>
      refine served.mono ⟨[], (List.append_nil _).symm⟩ (fun _ waits => ?_) ended
      exact List.mem_append_left _ waits
  | finished found unfinished complete => exact served.finished tracked found unfinished complete

theorem changes (served : Served service earlier caller id) (tracked : Tracked service)
    (changes : Changes service after) : Served after earlier caller id := by
  induction changes with
  | refl => exact served
  | tail earlier last ih => exact ih.changed (tracked.changes earlier) last

theorem gaveUp (served : Served service earlier caller id) {other : Nat} (differs : other ≠ caller) :
    Served (service.giveUp other) earlier caller id := by
  obtain ⟨newer, grown, state⟩ := served
  refine ⟨newer ++ _, by rw [← List.append_assoc, ← grown]; rfl, ?_⟩
  rcases state with waits | ⟨answer, member, rest⟩
  · exact .inl (List.mem_filter.mpr ⟨waits, bne_iff_ne.mpr differs.symm⟩)
  · exact .inr ⟨answer, List.mem_append_left _ member, rest⟩

/-- A caller is served along every schedule in which the record of answers is kept, unless giving
up. -/
theorem history (served : Served service earlier caller id) (tracked : Tracked service)
    (moves : List Move) (recorded : ∀ inquiries, .ask inquiries ∉ moves)
    (stays : .giveUp caller ∉ service.happened sites moves) :
    Served (service.history sites moves) earlier caller id := by
  induction moves generalizing service with
  | nil => exact served
  | cons move moves ih =>
    simp only [happened, List.mem_append, Option.mem_toList, not_or] at stays
    refine ih ?_ (tracked.perform move)
      (fun inquiries member => recorded inquiries (List.mem_cons_of_mem _ member)) stays.2
    have ended := performed sites service move
    have event := stays.1
    generalize service.perform sites move = outcome at ended ⊢
    cases ended with
    | changed changes => exact served.changes tracked changes
    | recalled _ changes =>
      exact (served.changes tracked changes).mono ⟨_, rfl⟩ (fun _ waits => waits) fun _ ended => ended
    | @gaveUp other after change gives =>
      refine (served.changed tracked change).gaveUp ?_
      rintro rfl
      exact event gives
    | forgot | passed | cleared => exact served
    | @asked inquiries asks => exact absurd (asks ▸ List.mem_cons_self) (recorded inquiries)

end Served

/-! ### Runs on record -/

/-- No change but forgetting takes a run from the record. -/
theorem Change.flights (change : Change service after) (boarded : id ∈ service.flights) :
    id ∈ after.flights := by
  cases change with
  | errands | refused | looked | noted | taken => exact boarded
  | launched => exact List.mem_append_left _ boarded
  | joined =>
    rw [flights_join]
    exact boarded
  | finished =>
    rw [flights_finish]
    exact boarded

theorem Changes.flights (changes : Changes service after) (boarded : id ∈ service.flights) :
    id ∈ after.flights := by
  induction changes with
  | refl => exact boarded
  | tail _ last ih => exact last.flights ih

/-- A run leaves the record when it is forgotten, and no other run does then. -/
theorem kept_or_forgotten (sites : CheckSites σ) (move : Move) (boarded : id ∈ service.flights) :
    id ∈ (service.perform sites move).flights ∨
      service.eventOf? move = some (.forget id) ∧ service.Forgets id := by
  have ended := performed sites service move
  generalize service.perform sites move = outcome at ended ⊢
  cases ended with
  | changed changes => exact .inl (Changes.flights changes boarded)
  | gaveUp change => exact .inl (change.flights boarded)
  | recalled | passed | cleared | asked => exact .inl boarded
  | @forgot other before rest due place event =>
    by_cases own : id = other
    · subst own
      refine .inr ⟨event, List.mem_map.mpr ⟨⟨due, .forget id⟩, ?_, rfl⟩⟩
      rw [place]
      exact List.mem_append_right _ List.mem_cons_self
    · exact .inl (Flights.mem_forget.mpr ⟨boarded, own⟩)

theorem not_mem_of_forget {move : Move} (event : service.eventOf? move = some (.forget id)) :
    id ∉ (service.perform sites move).flights := by
  have ended := performed sites service move
  generalize service.perform sites move = outcome at ended ⊢
  cases ended with
  | changed _ _ remembered => exact absurd event (remembered id)
  | recalled arrives => cases event.symm.trans arrives
  | gaveUp _ gives => cases event.symm.trans gives
  | passed passes =>
    rw [passes] at event
    cases event
  | cleared clears =>
    rw [clears] at event
    cases event
  | asked asks =>
    rw [asks] at event
    cases event
  | forgot _ event' =>
    cases event.symm.trans event'
    exact fun boarded => (Flights.mem_forget.mp boarded).2 rfl

/-- Who asks for a domain whose report is not stored joins the run on record. -/
theorem arrive_eq_join {caller : Nat} {domain : Value} {patience : Option Nat} {host : String}
    (patient : patience ≠ some 0) (reads : Host.ofValue domain = .ok host)
    (missing : (service.cache.get service.cacheClock host).1 = none)
    (onRecord : service.flights.run? host = some id) :
    service.arrive sites caller domain patience =
      join { service with cache := (service.cache.get service.cacheClock host).2 } caller id
        patience := by
  rw [arrive_of_missing patient reads missing]
  simp only [share, onRecord]

theorem served_join {caller : Nat} {patience : Option Nat} :
    Served (service.join caller id patience) service.answers caller id := by
  have how := CheckService.joined service caller id patience
  generalize service.join caller id patience = outcome at how ⊢
  cases how with
  | @answered outcome past =>
    obtain ⟨run, found, ended⟩ := Option.bind_eq_some_iff.mp past
    obtain ⟨member, named⟩ := mem_of_run? found
    exact ⟨_, rfl, .inr ⟨_, List.mem_singleton.mpr rfl, rfl, outcome, ⟨run, member, named, ended⟩, rfl⟩⟩
  | waits =>
    exact ⟨[], (List.append_nil _).symm, .inl (List.mem_append_right _ (List.mem_singleton.mpr rfl))⟩

/-- No run is started, and nothing is sent. -/
structure SendsNothing (service after : CheckService σ) : Prop where
  runs : after.runs = service.runs
  flights : after.flights = service.flights
  sent : after.sent = service.sent
  server : after.server = service.server
  desk : after.desk = service.desk

theorem sendsNothing_join (agenda : Agenda CheckEvent) (cache : Cache Report) (caller : Nat)
    (patience : Option Nat) :
    SendsNothing service (join { service with agenda, cache } caller id patience) := by
  obtain ⟨_, _, _, eq⟩ := join_eq { service with agenda, cache } caller id patience
  rw [eq]
  exact ⟨rfl, rfl, rfl, rfl, rfl⟩

/-- What it means that a service makes one run at a time for every domain. -/
structure SingleFlight (sites : CheckSites σ) (service : CheckService σ) : Prop where
  /-- A domain has one unfinished run at most. -/
  alone : ∀ run ∈ service.runs, ∀ other ∈ service.runs, run.outcome = none → other.outcome = none →
    run.id.domain = other.id.domain → run = other
  /-- The unfinished run of a domain is the one on record. -/
  onRecord : ∀ run ∈ service.runs, run.outcome = none →
    service.flights.run? run.id.domain = some run.id
  /-- A run that has ended stays on record until it is forgotten, which is on the agenda. -/
  lingering : ∀ id ∈ service.flights,
    service.Unfinished id ∨ (∃ outcome, service.EndedWith id outcome) ∧ service.Forgets id
  /-- A run that is forgotten is no longer on record. -/
  forgotten : ∀ move id, service.eventOf? move = some (.forget id) →
    id ∉ (service.perform sites move).flights
  /-- Nothing else takes a run from the record, not even that an earlier run of its domain is
  forgotten; and a run is forgotten only after it has ended. -/
  kept : ∀ move, ∀ id ∈ service.flights, id ∈ (service.perform sites move).flights ∨
    service.eventOf? move = some (.forget id) ∧ ∃ outcome, service.EndedWith id outcome
  /-- Who asks for a domain with a run on record, and whose report is not stored, starts no run and
  has nothing sent; unless giving up, such a caller waits for that run, or got what it ended with. -/
  shared : ∀ move caller domain patience host id,
    service.eventOf? move = some (.arrive caller domain patience) → patience ≠ some 0 →
    Host.ofValue domain = .ok host → (service.cache.get service.cacheClock host).1 = none →
    service.flights.run? host = some id →
      SendsNothing service (service.perform sites move) ∧
      ∀ later, (∀ inquiries, .ask inquiries ∉ later) →
        .giveUp caller ∉ (service.perform sites move).happened sites later →
          Served ((service.perform sites move).history sites later) service.answers caller id
  /-- When all runs have ended and are forgotten, none is on record. -/
  emptied : (∀ run ∈ service.runs, run.outcome ≠ none) → (∀ id, ¬ service.Forgets id) →
    service.flights = []
  /-- Running the service to its end gets there: then all runs have ended, none is on record, and
  nobody waits. -/
  settles : Settled (service.run sites)

/-- Every service makes one run at a time for every domain, at any moment of any schedule. -/
theorem single_flight (sites : CheckSites σ) (server : σ) (credentials : Credentials)
    (lifetime : Measure) (moves : List Move) :
    SingleFlight sites ((CheckService.new server credentials lifetime).history sites moves) := by
  have tracked := tracked_history sites server credentials lifetime moves
  have settles := settled_run sites server credentials lifetime moves
  generalize (CheckService.new server credentials lifetime).history sites moves = service at tracked settles
  have onRecord : ∀ run ∈ service.runs, run.outcome = none →
      service.flights.run? run.id.domain = some run.id := by
    intro run member unfinished
    exact tracked.run?_flights (tracked.onRecord run.id ⟨run, member, rfl, unfinished⟩)
  constructor
  case alone =>
    intro run member other member' unfinished unfinished' same
    have one := onRecord run member unfinished
    have two := onRecord other member' unfinished'
    rw [same, two] at one
    exact List.inj_on_of_nodup_map tracked.distinct member member' (Option.some.inj one).symm
  case onRecord => exact onRecord
  case lingering => exact tracked.lingering
  case forgotten => exact fun move id event => not_mem_of_forget event
  case kept =>
    intro move id boarded
    refine (kept_or_forgotten sites move boarded).imp_right ?_
    rintro ⟨event, forgets⟩
    exact ⟨event, tracked.past id forgets⟩
  case shared =>
    intro move caller domain patience host id event patient reads missing onRecord
    have tracked' : Tracked (service.perform sites move) := tracked.perform move
    obtain ⟨agenda, arrives⟩ := @perform_arrive _ sites _ _ _ _ _ event
    have joins : arrive sites { service with agenda } caller domain patience = _ :=
      arrive_eq_join patient reads missing onRecord
    rw [arrives, joins] at tracked' ⊢
    exact ⟨sendsNothing_join _ _ _ _, fun later recorded stays =>
      served_join.history tracked' later recorded stays⟩
  case emptied => exact tracked.flights_eq_nil
  case settles => exact settles

end DomainScout.CheckService
