import DomainScout.Proofs.Check.Lagging
import DomainScout.Proofs.Check.Patience
import DomainScout.Proofs.Check.Resilience

/-!
# Nobody notices who gives up

A schedule is compared with the calm one, in which the same happens but that nobody who waits gives
up. At every moment of the two the same was sent and is stored, and whoever waits on gets the same
answers at the same moments. The same holds of running the service on: a calm service takes the
same events in the same order, since giving up is all that is missing on its agenda.

Main statement: `giving_up_unnoticed`.
-/
namespace DomainScout

theorem eq_giveUp_of_calm? {event : CheckEvent} (gone : event.calm? = none) :
    ∃ caller, event = .giveUp caller := by
  cases event with
  | giveUp caller => exact ⟨caller, rfl⟩
  | arrive | send | ended | forget => cases gone

theorem isPrompt_of_calm? {event event' : CheckEvent} (kept : event.calm? = some event') :
    event'.isPrompt = event.isPrompt := by
  cases event with
  | giveUp caller => cases kept
  | arrive | send | ended | forget =>
    cases kept
    rfl

namespace CheckService

/-! ### Calm schedules -/

/-- The check of a caller who, once served, waits without an end. -/
def Inquiry.calm (inquiry : Inquiry) : Inquiry := { inquiry with patience := endless inquiry.patience }

variable {σ : Type}

/-- The service where nobody who waits gives up. -/
def calm (service : CheckService σ) : CheckService σ := { service with agenda := calmed service.agenda }

/-- What is left of a move where nobody who waits gives up. -/
def calmMove (service : CheckService σ) : Move → List Move
  | .arrive caller domain patience => [.arrive caller domain (endless patience)]
  | .event place =>
    match service.agenda[place]?.bind Timed.calm? with
    | some _ => [.event (calmed (service.agenda.take place)).length]
    | none => []
  | .ask inquiries => [.ask (inquiries.map Inquiry.calm)]
  | .advance milliseconds => [.advance milliseconds]
  | .clearCache => [.clearCache]
  | .dropToken => [.dropToken]

/-- The schedule where nobody who waits gives up. -/
def calmMoves (sites : CheckSites σ) (service : CheckService σ) : List Move → List Move
  | [] => []
  | move :: moves => service.calmMove move ++ calmMoves sites (service.perform sites move) moves

section Schedules

variable {sites : CheckSites σ} {stays : Nat → Bool} {service calm : CheckService σ}

theorem calmMoves_append (before after : List Move) :
    service.calmMoves sites (before ++ after) =
      service.calmMoves sites before ++ (service.history sites before).calmMoves sites after := by
  induction before generalizing service with
  | nil => rfl
  | cons move before ih =>
    rw [List.cons_append, calmMoves, calmMoves, ih, List.append_assoc]
    rfl

theorem happened_append (before after : List Move) :
    service.happened sites (before ++ after) =
      service.happened sites before ++ (service.history sites before).happened sites after := by
  induction before generalizing service with
  | nil => rfl
  | cons move before ih =>
    rw [List.cons_append, happened, happened, ih, List.append_assoc]
    rfl

theorem calmed_asked (now : Nat) (inquiries : List Inquiry) :
    calmed (inquiries.zipIdx.map fun (inquiry, caller) =>
        ⟨now + inquiry.start, .arrive caller inquiry.domain inquiry.patience⟩) =
      (inquiries.map Inquiry.calm).zipIdx.map fun (inquiry, caller) =>
        ⟨now + inquiry.start, .arrive caller inquiry.domain inquiry.patience⟩ := by
  rw [List.zipIdx_map, List.map_map, calmed, List.filterMap_map, ← List.filterMap_eq_map]
  rfl

namespace Alike

theorem now (alike : Alike stays service calm) : calm.now = service.now := by rw [alike.same]

theorem reschedule (alike : Alike stays service calm) (agenda : Agenda CheckEvent) :
    Alike stays { service with agenda } { calm with agenda := calmed agenda } := by
  obtain ⟨waiters, answers, rfl, wait, answered⟩ := alike.shape
  exact ⟨rfl, rfl, wait, answered⟩

theorem setClock (alike : Alike stays service calm) (now : Nat) :
    Alike stays { service with now } { calm with now } := by
  obtain ⟨waiters, answers, rfl, wait, answered⟩ := alike.shape
  exact ⟨rfl, rfl, wait, answered⟩

theorem advance (alike : Alike stays service calm) (milliseconds : Nat) :
    Alike stays (service.advance milliseconds) (calm.advance milliseconds) := by
  obtain ⟨waiters, answers, rfl, wait, answered⟩ := alike.shape
  exact ⟨rfl, rfl, wait, answered⟩

theorem clearCache (alike : Alike stays service calm) :
    Alike stays service.clearCache calm.clearCache := by
  obtain ⟨waiters, answers, rfl, wait, answered⟩ := alike.shape
  exact ⟨rfl, rfl, wait, answered⟩

theorem ask (alike : Alike stays service calm) (inquiries : List Inquiry) :
    Alike stays (service.ask inquiries) (calm.ask (inquiries.map Inquiry.calm)) := by
  obtain ⟨waiters, answers, rfl, wait, answered⟩ := alike.shape
  refine ⟨rfl, ?_, wait, rfl⟩
  simp only [CheckService.ask, calmed_eq_sift, Agenda.sift_append, ← calmed_asked]

/-- Nobody has given up yet. -/
theorem self (stays : Nat → Bool) (service : CheckService σ) : Alike stays service service.calm :=
  .intro rfl rfl

section Events

variable {place : Nat} {timed : Timed CheckEvent}

/-- Of an event by which somebody gives up the calm service has no trace. -/
theorem happen_giveUp (alike : Alike stays service calm) {caller : Nat}
    (found : service.agenda[place]? = some timed) (gives : timed.item = .giveUp caller)
    (goes : stays caller = false) : Alike stays (service.happen sites place) calm := by
  have gone : timed.item.calm? = none := by rw [gives, CheckEvent.calm?]
  have taken := alike.reschedule (service.agenda.eraseIdx place)
  rw [calmed_eq_sift, Agenda.sift_eraseIdx_none found gone, ← calmed_eq_sift, ← alike.agenda] at taken
  have happens : service.happen sites place =
      giveUp { service with agenda := service.agenda.eraseIdx place } caller := by
    simp [happen, found, gives, CheckService.step]
  rw [happens]
  exact taken.gaveUp goes

/-- Any other event happens to both. -/
theorem happen_kept (sites : CheckSites σ) (alike : Alike stays service calm) {event : CheckEvent}
    (found : service.agenda[place]? = some timed) (kept : timed.item.calm? = some event) :
    Alike stays (service.happen sites place)
        (calm.happen sites (calmed (service.agenda.take place)).length) ∧
      calm.eventOf? (.event (calmed (service.agenda.take place)).length) = some event := by
  obtain ⟨here, without⟩ := Agenda.sift_place found kept
  simp only [← calmed_eq_sift, ← alike.agenda] at here without
  have taken := alike.reschedule (service.agenda.eraseIdx place)
  simp only [happen, found, here, without, eventOf?, Option.map_some, and_true]
  exact taken.step kept

end Events

/-- A move, and what is left of it where nobody gives up. -/
theorem perform (sites : CheckSites σ) (alike : Alike stays service calm) (move : Move)
    (leaves : ∀ caller, service.eventOf? move = some (.giveUp caller) → stays caller = false) :
    Alike stays (service.perform sites move) (calm.history sites (service.calmMove move)) ∧
      calm.happened sites (service.calmMove move) =
        (service.eventOf? move).toList.filterMap CheckEvent.calm? := by
  cases move with
  | arrive caller domain patience => exact ⟨alike.arrive caller domain patience, rfl⟩
  | advance milliseconds => exact ⟨alike.advance milliseconds, rfl⟩
  | clearCache => exact ⟨alike.clearCache, rfl⟩
  | dropToken => exact ⟨alike.dropToken, rfl⟩
  | ask inquiries => exact ⟨alike.ask inquiries, rfl⟩
  | event place =>
    cases found : service.agenda[place]? with
    | none =>
      -- There is no event at this place, so nothing happens.
      simpa [CheckService.perform, happen, calmMove, eventOf?, found, history, happened] using alike
    | some timed =>
      have event : service.eventOf? (.event place) = some timed.item := by simp [eventOf?, found]
      rw [event] at leaves ⊢
      cases becomes : timed.item.calm? with
      | none =>
        obtain ⟨caller, gives⟩ := eq_giveUp_of_calm? becomes
        have nothing : service.calmMove (.event place) = [] := by
          simp [calmMove, found, Timed.calm?, becomes]
        rw [nothing]
        refine ⟨alike.happen_giveUp found gives (leaves caller (congrArg some gives)), ?_⟩
        simp [happened, becomes]
      | some event' =>
        obtain ⟨both, same⟩ := alike.happen_kept sites found becomes
        have one : service.calmMove (.event place) =
            [.event (calmed (service.agenda.take place)).length] := by
          simp [calmMove, found, Timed.calm?, becomes]
        rw [one]
        refine ⟨both, ?_⟩
        simp [happened, same, becomes]

/-- A schedule, and the calm one. -/
theorem history (sites : CheckSites σ) (alike : Alike stays service calm) (moves : List Move)
    (leaves : ∀ caller, .giveUp caller ∈ service.happened sites moves → stays caller = false) :
    Alike stays (service.history sites moves) (calm.history sites (service.calmMoves sites moves)) ∧
      calm.happened sites (service.calmMoves sites moves) =
        (service.happened sites moves).filterMap CheckEvent.calm? := by
  induction moves generalizing service calm with
  | nil => exact ⟨alike, rfl⟩
  | cons move moves ih =>
    simp only [happened, List.mem_append, Option.mem_toList] at leaves
    obtain ⟨first, event⟩ := alike.perform sites move fun caller gives => leaves caller (.inl gives)
    obtain ⟨rest, events⟩ := ih first fun caller gives => leaves caller (.inr gives)
    rw [calmMoves, history_append, happened_append, event, events]
    exact ⟨rest, by rw [happened, List.filterMap_append]⟩

theorem prompt (alike : Alike stays service calm) (prompt : service.Prompt) : calm.Prompt := by
  intro timed member
  rw [alike.agenda] at member
  obtain ⟨earlier, known, _, kept⟩ := Agenda.exists_of_mem_sift member
  rw [isPrompt_of_calm? kept]
  exact prompt earlier known

end Alike

/-! ### Running on -/

/-- The same was sent, and the same is known: all but who waits and who was told what. -/
structure SameWork (service other : CheckService σ) : Prop where
  sent : other.sent = service.sent
  server : other.server = service.server
  desk : other.desk = service.desk
  cache : other.cache = service.cache
  runs : other.runs = service.runs
  flights : other.flights = service.flights

theorem Alike.work (alike : Alike stays service calm) : SameWork service calm := by
  obtain ⟨waiters, answers, rfl, _, _⟩ := alike.shape
  exact ⟨rfl, rfl, rfl, rfl, rfl, rfl⟩

/-- The calm service is where the other one is, though its clock may not have moved on since its
last event. -/
abbrev Follows (stays : Nat → Bool) : CheckService σ → CheckService σ → Prop := Lags (Alike stays)

theorem Alike.follows (alike : Alike stays service calm) : Follows stays service calm :=
  .of_related alike alike.now

/-- The calm service takes the same event next, or somebody gives up. -/
theorem Follows.next? {after : CheckService σ} (follows : Follows stays service calm)
    (next : service.next? sites = some after)
    (gone : ∀ answer ∈ after.answers, answer.result = .error .gaveUp → stays answer.caller = false) :
    Follows stays after calm ∨
      ∃ calm', calm.next? sites = some calm' ∧ Follows stays after calm' := by
  obtain ⟨⟨timed, rest⟩, found, rfl⟩ := Option.map_eq_some_iff.mp next
  have agenda : calm.agenda = calmed service.agenda := follows.alike.agenda
  have taken := (follows.alike.reschedule rest).setClock (max service.now timed.due)
  apply Lags.next? follows agenda Alike.now found
  case skips =>
    intro quiet
    obtain ⟨caller, gives⟩ := eq_giveUp_of_calm? quiet
    obtain ⟨same, _⟩ := Agenda.sift_rest_of_next? found quiet
    rw [calmed_eq_sift, same, ← calmed_eq_sift, ← agenda] at taken
    dsimp only at gone ⊢
    rw [gives] at gone ⊢
    have goes : stays caller = false := gone _ (List.mem_append_right _ (List.mem_singleton.mpr rfl)) rfl
    exact taken.gaveUp goes
  case takes => exact fun event becomes => taken.step becomes

/-- What moves preserve holds while a service is run. -/
theorem preserved_runFor {P : CheckService σ → Prop}
    (moved : ∀ {service} move, P service → P (service.perform sites move)) (holds : P service) (n : Nat) :
    P (service.runFor sites n) := by
  obtain ⟨moves, _, runs⟩ := @exists_history_runFor _ sites n service
  rw [← runs]
  exact preserved_history moved holds moves

theorem answers_runFor (sites : CheckSites σ) (tracked : Tracked service) (n : Nat) :
    ∃ newer, (service.runFor sites n).answers = service.answers ++ newer := by
  obtain ⟨moves, own, runs⟩ := @exists_history_runFor _ sites n service
  rw [← runs]
  refine answers_history tracked fun inquiries asks => ?_
  cases own _ asks

theorem Follows.runFor (tracked : Tracked service) (follows : Follows stays service calm) (n : Nat)
    (gone : ∀ answer ∈ (service.runFor sites n).answers,
      answer.result = .error .gaveUp → stays answer.caller = false) :
    ∃ m, Follows stays (service.runFor sites n) (calm.runFor sites m) := by
  -- The calm service takes as many events, less those by which somebody gives up.
  induction n generalizing service calm with
  | zero => exact ⟨0, follows⟩
  | succ n ih =>
    cases next : service.next? sites with
    | none =>
      have stopped : service.runFor sites (n + 1) = service := by simp [CheckService.runFor, next]
      rw [stopped]
      exact ⟨0, follows⟩
    | some after =>
      have goes : service.runFor sites (n + 1) = after.runFor sites n := by simp [CheckService.runFor, next]
      rw [goes] at gone ⊢
      have tracked' : Tracked after := by
        obtain ⟨milliseconds, place, rfl⟩ := exists_perform_of_next? next
        have waited : Tracked (service.perform sites (.advance milliseconds)) := tracked.perform _
        exact waited.perform (.event place)
      -- Whoever gives up now is known to have done so at the end.
      obtain ⟨newer, grown⟩ := answers_runFor sites tracked' n
      have gone' : ∀ answer ∈ after.answers,
          answer.result = .error .gaveUp → stays answer.caller = false := by
        intro answer member
        apply gone
        rw [grown]
        exact List.mem_append_left _ member
      rcases follows.next? next gone' with stays | ⟨calm', next', follows'⟩
      · exact ih tracked' stays gone
      · obtain ⟨m, follows''⟩ := ih tracked' follows' gone
        refine ⟨m + 1, ?_⟩
        simpa [CheckService.runFor, next'] using follows''

theorem Follows.run (tracked : Tracked service) (prompt : service.Prompt)
    (follows : Follows stays service calm)
    (gone : ∀ answer ∈ (service.run sites).answers,
      answer.result = .error .gaveUp → stays answer.caller = false) :
    Follows stays (service.run sites) (calm.run sites) := by
  obtain ⟨m, follows'⟩ := follows.runFor tracked service.work gone
  have ended : (service.run sites).agenda = [] := agenda_run prompt
  have prompt' : calm.Prompt := follows.alike.prompt prompt
  have empty : (calm.runFor sites m).agenda = [] := by
    have same : (calm.runFor sites m).agenda = calmed (service.run sites).agenda := follows'.alike.agenda
    rw [same, ended]
    rfl
  rw [← runFor_eq_run prompt' empty]
  exact follows'

/-! ### Runs that nobody waits for -/

theorem mem_ids_perform {id : RunId} (known : id ∈ service.ids) (move : Move) :
    id ∈ (service.perform sites move).ids := by
  refine preserved_perform (P := fun after : CheckService σ => id ∈ after.ids) ?_
    (fun _ _ holds => holds) (fun _ holds => holds) (fun _ holds => holds) (fun _ holds => holds)
    (fun holds => holds) (fun _ holds => holds) known
  intro before after change holds
  cases change with
  | errands | refused | looked | taken => exact holds
  | launched =>
    unfold ids
    rw [List.map_append]
    exact List.mem_append_left _ holds
  | joined =>
    unfold ids
    rw [runs_join]
    exact holds
  | noted takesIn =>
    rw [ids_updateRun takesIn.id]
    exact holds
  | finished =>
    rw [ids_finish]
    exact holds

theorem mem_ids_runFor (sites : CheckSites σ) {id : RunId} (known : id ∈ service.ids) (n : Nat) :
    id ∈ (service.runFor sites n).ids :=
  preserved_runFor (P := fun after : CheckService σ => id ∈ after.ids)
    (fun move holds => mem_ids_perform holds move) known n

theorem unfinished_or_ended {id : RunId} (known : id ∈ service.ids) :
    service.Unfinished id ∨ ∃ outcome, service.EndedWith id outcome := by
  obtain ⟨run, member, named⟩ := List.mem_map.mp known
  cases ended : run.outcome with
  | none => exact .inl ⟨run, member, named, ended⟩
  | some outcome => exact .inr ⟨outcome, run, member, named, ended⟩

/-- A clean report with which a run ends can be read from then on, unless it is too old at once. -/
theorem get_of_next? {after : CheckService σ} {id : RunId} {report : Report} (kept : Kept service)
    (next : service.next? sites = some after) (before : ¬ service.EndedWith id (.ok report))
    (ended : after.EndedWith id (.ok report)) (clean : report.isClean)
    (live : Live after.cache.lifetime after.now ⟨id.domain, after.cacheClock, report⟩) :
    (after.cache.get after.cacheClock id.domain).1 = some report := by
  obtain ⟨milliseconds, place, rfl⟩ := exists_perform_of_next? next
  have kept' : Kept (service.perform sites (.advance milliseconds)) := kept.perform (.advance milliseconds)
  have effect := effect sites (service.advance milliseconds) (.event place)
  have later : Kept ((service.advance milliseconds).perform sites (.event place)) :=
    kept'.perform (.event place)
  have domain : report.domain = id.domain := (later.reports id report ended).1
  rw [← domain] at live ⊢
  have stored := effect.stores kept' before ended clean (by rw [← effect.lifetime]; exact live)
  exact (Cache.get_eq_some later.unique).mpr ⟨_, stored, rfl, rfl, live⟩

/-- How a run ends when a service is run on: it does after some number of events, and a clean report
can be read from that moment on, unless it is too old at once. -/
def EndsStored (sites : CheckSites σ) (service : CheckService σ) (id : RunId) : Prop :=
  ∃ n outcome, (∀ k < n, (service.runFor sites k).Unfinished id) ∧
    (service.runFor sites n).EndedWith id outcome ∧
    ∀ report, outcome = .ok report → report.isClean →
      Live (service.runFor sites n).cache.lifetime (service.runFor sites n).now
          ⟨id.domain, (service.runFor sites n).cacheClock, report⟩ →
        ((service.runFor sites n).cache.get (service.runFor sites n).cacheClock id.domain).1 =
          some report

theorem Kept.runFor (kept : Kept service) (n : Nat) : Kept (service.runFor sites n) :=
  preserved_runFor (fun move holds => holds.perform move) kept n

/-- Every run that has not ended does so, also one that nobody waits for any more. -/
theorem Kept.endsStored {id : RunId} (kept : Kept service) (settled : Settled (service.run sites))
    (unfinished : service.Unfinished id) : EndsStored sites service id := by
  classical
  -- The run ends at last, since nothing is left to do then; so there is a first event that ends it.
  have known : id ∈ service.ids := by
    obtain ⟨run, member, named, _⟩ := unfinished
    exact List.mem_map.mpr ⟨run, member, named⟩
  have either (n : Nat) := unfinished_or_ended (mem_ids_runFor sites known n)
  have ends : ∃ n outcome, (service.runFor sites n).EndedWith id outcome := by
    refine ⟨service.work, (either service.work).resolve_left ?_⟩
    rintro ⟨run, member, _, open'⟩
    exact settled.finished run member open'
  have until' (k : Nat) (before : k < Nat.find ends) : (service.runFor sites k).Unfinished id :=
    (either k).resolve_right (Nat.find_min ends before)
  obtain ⟨outcome, ended⟩ := Nat.find_spec ends
  refine ⟨Nat.find ends, outcome, until', ended, ?_⟩
  rintro report rfl clean live
  generalize Nat.find ends = n at until' ended live ⊢
  cases n with
  | zero => exact absurd unfinished (kept.tracked.not_unfinished ended)
  | succ n =>
    -- The run ends by the last event, since it had not ended before.
    have before : ¬ (service.runFor sites n).EndedWith id (.ok report) := fun earlier =>
      (kept.runFor n).tracked.not_unfinished earlier (until' n (Nat.lt_succ_self n))
    have last : service.runFor sites (n + 1) = (service.runFor sites n).runFor sites 1 := runFor_add n 1
    rw [last] at ended live ⊢
    cases next : (service.runFor sites n).next? sites with
    | none =>
      simp only [CheckService.runFor, next] at ended
      exact absurd ended before
    | some after =>
      simp only [CheckService.runFor, next] at ended live ⊢
      exact get_of_next? (kept.runFor n) next before ended clean live

end Schedules

/-! ### Whoever gives up -/

/-- What it means that nobody else notices who gives up along a schedule and afterwards. -/
structure Unnoticed (sites : CheckSites σ) (service : CheckService σ) (moves : List Move) : Prop where
  /-- The same happens in the calm schedule, but that nobody who waits gives up. -/
  happened : service.calm.happened sites (service.calmMoves sites moves) =
    (service.happened sites moves).filterMap CheckEvent.calm?
  /-- After every part of the schedule, and the same part of the calm one, the same was sent and is
  known, and the clocks show the same. -/
  always : ∀ earlier later, moves = earlier ++ later →
    service.calmMoves sites earlier <+: service.calmMoves sites moves ∧
      SameWork (service.history sites earlier)
          (service.calm.history sites (service.calmMoves sites earlier)) ∧
        (service.calm.history sites (service.calmMoves sites earlier)).now =
          (service.history sites earlier).now
  /-- Those who do not give up get the same answers at the same moments. -/
  answers : ∀ stays : Nat → Bool,
    (∀ caller, .giveUp caller ∈ service.happened sites moves → stays caller = false) →
      (service.calm.history sites (service.calmMoves sites moves)).answers.filter (stays ·.caller) =
        (service.history sites moves).answers.filter (stays ·.caller)
  /-- Whatever the service has got to when it is run on, the calm one gets to as well, and has nothing
  to do before the moment at which the other is there. -/
  along : ∀ n, ∃ m,
    let state := (service.history sites moves).runFor sites n
    let other := (service.calm.history sites (service.calmMoves sites moves)).runFor sites m
    SameWork state other ∧ other.now ≤ state.now ∧
      ∀ timed ∈ other.agenda, state.now ≤ max other.now timed.due
  /-- So both come to the same when they are run to the end. -/
  run : SameWork ((service.history sites moves).run sites)
    ((service.calm.history sites (service.calmMoves sites moves)).run sites)
  /-- Those who have not given up by the end get the same answers at the same moments. -/
  told : ∀ stays : Nat → Bool,
    (∀ caller, .giveUp caller ∈ service.happened sites moves → stays caller = false) →
      (∀ answer ∈ ((service.history sites moves).run sites).answers,
        answer.result = .error .gaveUp → stays answer.caller = false) →
      ((service.calm.history sites (service.calmMoves sites moves)).run sites).answers.filter
          (stays ·.caller) =
        ((service.history sites moves).run sites).answers.filter (stays ·.caller)
  /-- A run that is under way goes on to its end and is stored if clean, whoever has given up. -/
  ended : ∀ id, (service.history sites moves).Unfinished id →
    EndsStored sites (service.history sites moves) id

/-- Whoever gives up, at whatever moment of whatever schedule, nobody else notices. -/
theorem giving_up_unnoticed (sites : CheckSites σ) (server : σ) (credentials : Credentials)
    (lifetime : Measure) (before moves : List Move) :
    Unnoticed sites ((CheckService.new server credentials lifetime).history sites before) moves := by
  let start := CheckService.new server credentials lifetime
  have whole : start.history sites (before ++ moves) =
      (start.history sites before).history sites moves := history_append before moves
  have kept := kept_history sites server credentials lifetime (before ++ moves)
  have prompt := prompt_history sites server credentials lifetime (before ++ moves)
  have settled := settled_run sites server credentials lifetime (before ++ moves)
  rw [whole] at kept prompt settled
  clear whole
  generalize start.history sites before = service at *
  -- With nobody said to stay there is nothing to ask of those who give up.
  have work := fun moves => (Alike.self (fun _ => false) service).history sites moves fun _ _ => rfl
  constructor
  case happened => exact (work moves).2
  case always =>
    rintro earlier later rfl
    rw [calmMoves_append]
    exact ⟨List.prefix_append _ _, (work earlier).1.work, (work earlier).1.now⟩
  case answers =>
    intro stays leaves
    exact ((Alike.self stays service).history sites moves leaves).1.answers
  case along =>
    intro n
    obtain ⟨m, follows⟩ := (work moves).1.follows.runFor kept.tracked n fun _ _ _ => rfl
    obtain ⟨sent, server, desk, cache, runs, flights⟩ := follows.alike.work
    exact ⟨m, ⟨sent, server, desk, cache, runs, flights⟩, follows.past, follows.idle⟩
  case run =>
    have follows : Follows _ ((service.history sites moves).run sites) _ :=
      (work moves).1.follows.run kept.tracked prompt fun _ _ _ => rfl
    obtain ⟨sent, server, desk, cache, runs, flights⟩ := follows.alike.work
    exact ⟨sent, server, desk, cache, runs, flights⟩
  case told =>
    intro stays leaves gone
    have alike := ((Alike.self stays service).history sites moves leaves).1
    exact (alike.follows.run kept.tracked prompt gone).alike.answers
  case ended => exact fun id unfinished => kept.endsStored settled unfinished

end CheckService

end DomainScout
