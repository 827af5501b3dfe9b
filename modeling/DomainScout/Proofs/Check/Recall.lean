import DomainScout.Proofs.Check.Storing
import DomainScout.Proofs.Check.Sharing
import Mathlib.Data.List.Induction

/-!
# Stored reports as answers

A caller gets a stored report exactly when a run of the domain ended without errors less than the
lifetime ago and the reports were not dropped since. Such an answer is what the run ended with, and
has nothing sent.

Main statement: `faithful_recall`.
-/
namespace DomainScout.CheckService

variable {σ : Type} {sites : CheckSites σ} {service after : CheckService σ} {id : RunId}
  {entry : CacheEntry Report}

/-! ### What a move does to the entries -/

/-- What a move means for runs and entries: work that is done at one moment, time that passes, or
that the stored reports are dropped. -/
inductive Effect (service : CheckService σ) (move : Move) : CheckService σ → Prop
  | worked {middle after : CheckService σ} (changes : Changes service middle)
      (runs : after.runs = middle.runs) (cache : after.cache = middle.cache)
      (now : after.now = middle.now) (kept : move ≠ .clearCache) : Effect service move after
  | passed {milliseconds : Nat} (kept : move ≠ .clearCache) :
      Effect service move (service.advance milliseconds)
  | cleared (clears : move = .clearCache) : Effect service move service.clearCache

theorem effect (sites : CheckSites σ) (service : CheckService σ) (move : Move) :
    Effect service move (service.perform sites move) := by
  have ended := performed sites service move
  generalize service.perform sites move = outcome at ended ⊢
  cases ended with
  | changed changes kept => exact .worked changes rfl rfl rfl kept
  | recalled event changes =>
    refine .worked changes rfl rfl rfl ?_
    rintro rfl
    cases event
  | gaveUp change event =>
    refine .worked (.single change) rfl rfl rfl ?_
    rintro rfl
    cases event
  | forgot place event =>
    refine .worked .refl rfl rfl rfl ?_
    rintro rfl
    cases event
  | passed passes =>
    refine .passed ?_
    rw [passes]
    exact nofun
  | cleared clears => exact .cleared clears
  | asked asks =>
    refine .worked .refl rfl rfl rfl ?_
    rw [asks]
    exact nofun

theorem Effect.now {move : Move} (effect : Effect service move after) : service.now ≤ after.now := by
  cases effect with
  | worked changes _ _ now => exact Nat.le_of_eq (now.trans (Changes.now changes)).symm
  | passed => exact Nat.le_add_right _ _
  | cleared => exact Nat.le_refl _

theorem Effect.lifetime {move : Move} (effect : Effect service move after) :
    after.cache.lifetime = service.cache.lifetime := by
  cases effect with
  | worked changes _ cache =>
    rw [cache]
    exact Changes.lifetime changes
  | passed | cleared => rfl

theorem Effect.entry_source {move : Move} (effect : Effect service move after) (kept : Kept service)
    (member : entry ∈ after.cache.entries) :
    (entry ∈ service.cache.entries ∧ move ≠ .clearCache) ∨ Newly service after entry := by
  cases effect with
  | worked changes runs cache now kept' =>
    rw [cache] at member
    rcases Changes.entry_source changes kept member with known | ⟨⟨id, host, before, ended⟩, clean, moment⟩
    · exact .inl ⟨known, kept'⟩
    · refine .inr ⟨⟨id, host, before, (stands_congr runs _ _).mpr ended⟩, clean, ?_⟩
      rw [moment, cacheClock, cacheClock, now]
  | passed kept' => exact .inl ⟨member, kept'⟩
  | cleared => cases member

theorem Effect.entry_stays {move : Move} (effect : Effect service move after) (kept : Kept service)
    (uncleared : move ≠ .clearCache) (member : entry ∈ service.cache.entries)
    (live : Live service.cache.lifetime service.now entry) : entry ∈ after.cache.entries := by
  cases effect with
  | worked changes _ cache =>
    rw [cache]
    exact Changes.entry_stays changes kept member live
  | passed => exact member
  | cleared clears => exact absurd clears uncleared

theorem Effect.stores {move : Move} (effect : Effect service move after) (kept : Kept service)
    {report : Report} (before : ¬ service.EndedWith id (.ok report))
    (ended : after.EndedWith id (.ok report)) (clean : report.isClean)
    (live : Live service.cache.lifetime after.now ⟨report.domain, after.cacheClock, report⟩) :
    ⟨report.domain, after.cacheClock, report⟩ ∈ after.cache.entries := by
  cases effect with
  | @worked middle _ changes runs cache now =>
    have same : after.cacheClock = middle.cacheClock := by rw [cacheClock, cacheClock, now]
    rw [same] at live ⊢
    rw [now, Changes.now changes] at live
    rw [cache]
    exact Changes.stores changes kept before ((stands_congr runs _ _).mp ended) clean live
  | passed => exact absurd ended before
  | cleared => exact absurd ended before

/-! ### What a schedule does to the entries -/

theorem lifetime_history (moves : List Move) :
    (service.history sites moves).cache.lifetime = service.cache.lifetime :=
  preserved_history (P := fun after : CheckService σ => after.cache.lifetime = service.cache.lifetime)
    (fun move same => (effect sites _ move).lifetime.trans same) rfl moves

theorem now_history (moves : List Move) : service.now ≤ (service.history sites moves).now :=
  preserved_history (P := fun after : CheckService σ => service.now ≤ after.now)
    (fun move le => Nat.le_trans le (effect sites _ move).now) (Nat.le_refl _) moves

/-- Every entry has been stored in the course of the schedule. -/
theorem history_source {start : CheckService σ} (empty : start.cache.entries = []) (kept : Kept start)
    (moves : List Move) (member : entry ∈ (start.history sites moves).cache.entries) :
    ∃ earlier move later, moves = earlier ++ move :: later ∧ .clearCache ∉ later ∧
      Newly (start.history sites earlier) (start.history sites (earlier ++ [move])) entry := by
  -- The last move stored the entry, or the entry was there before it. So the schedule is taken
  -- apart from its end.
  induction moves using List.reverseRecOn with
  | nil =>
    change entry ∈ start.cache.entries at member
    rw [empty] at member
    cases member
  | append_singleton moves last ih =>
    have kept' : Kept (start.history sites moves) :=
      preserved_history (fun move holds => holds.perform move) kept moves
    rw [history_append] at member
    rcases (effect sites (start.history sites moves) last).entry_source kept' member with
      ⟨known, uncleared⟩ | newly
    · obtain ⟨earlier, move, later, split, uncleared', newly⟩ := ih known
      refine ⟨earlier, move, later ++ [last], ?_, ?_, newly⟩
      · rw [split, List.append_assoc, List.cons_append]
      · simp only [List.mem_append, List.mem_singleton, not_or]
        exact ⟨uncleared', uncleared.symm⟩
    · refine ⟨moves, last, [], rfl, List.not_mem_nil, ?_⟩
      rw [history_append]
      exact newly

theorem history_stays (kept : Kept service) (moves : List Move) (uncleared : .clearCache ∉ moves)
    (member : entry ∈ service.cache.entries)
    (live : Live service.cache.lifetime (service.history sites moves).now entry) :
    entry ∈ (service.history sites moves).cache.entries := by
  induction moves generalizing service with
  | nil => exact member
  | cons move moves ih =>
    have effect := effect sites service move
    -- Being young enough at the end, the entry was so at every moment before.
    have live' : Live service.cache.lifetime service.now entry :=
      live.earlier (kept.moments entry member) (now_history (move :: moves))
    refine ih (kept.perform move) (fun later => uncleared (List.mem_cons_of_mem _ later)) ?_ ?_
    · exact effect.entry_stays kept (fun clears => uncleared (clears ▸ List.mem_cons_self)) member live'
    · rw [effect.lifetime]
      exact live

/-- A run of a host ended without errors less than the lifetime ago, and the stored reports were not
dropped since. -/
def StoredSince (sites : CheckSites σ) (start : CheckService σ) (moves : List Move) (host : String)
    (report : Report) : Prop :=
  ∃ earlier move later, moves = earlier ++ move :: later ∧ .clearCache ∉ later ∧
    Ends (start.history sites earlier) (start.history sites (earlier ++ [move])) host report ∧
    report.isClean ∧ ((start.history sites moves).cacheClock.since
      (start.history sites (earlier ++ [move])).cacheClock).reaches start.cache.lifetime = false

/-- What is read from the store is what was stored, as long as it is not too old or dropped. -/
theorem get_eq_some_iff {start : CheckService σ} (empty : start.cache.entries = [])
    (kept : Kept start) (moves : List Move) (host : String) (report : Report) :
    ((start.history sites moves).cache.get (start.history sites moves).cacheClock host).1 =
      some report ↔ StoredSince sites start moves host report := by
  have keptAt : ∀ moves, Kept (start.history sites moves) :=
    fun moves => preserved_history (fun move holds => holds.perform move) kept moves
  rw [Cache.get_eq_some (keptAt moves).unique]
  constructor
  · -- An entry was stored by some move, and the reports were not dropped since.
    rintro ⟨entry, member, rfl, rfl, live⟩
    obtain ⟨earlier, move, later, split, uncleared, newly⟩ := history_source empty kept moves member
    refine ⟨earlier, move, later, split, uncleared, newly.ends, newly.clean, ?_⟩
    have lifetime : (start.history sites moves).cache.lifetime = start.cache.lifetime :=
      lifetime_history moves
    rw [← newly.moment, ← lifetime]
    exact live
  · -- The move that ended the run stored its report, and nothing after it took the entry away.
    rintro ⟨earlier, move, later, rfl, uncleared, ⟨id, rfl, before, ended⟩, clean, live⟩
    let middle := start.history sites (earlier ++ [move])
    have domain : report.domain = id.domain := ((keptAt (earlier ++ [move])).reports id report ended).1
    have onward : start.history sites (earlier ++ move :: later) = middle.history sites later := by
      rw [← history_append, List.append_assoc, List.singleton_append]
    have effect : Effect (start.history sites earlier) move middle := by
      change Effect _ _ (start.history sites (earlier ++ [move]))
      rw [history_append]
      exact effect sites _ move
    have lifetime : (start.history sites earlier).cache.lifetime = start.cache.lifetime :=
      lifetime_history earlier
    have atLast : Live start.cache.lifetime (middle.history sites later).now
        ⟨report.domain, middle.cacheClock, report⟩ := by
      rw [onward] at live
      exact live
    have first : Live start.cache.lifetime middle.now ⟨report.domain, middle.cacheClock, report⟩ :=
      atLast.earlier ⟨middle.now, Nat.le_refl _, rfl⟩ (now_history later)
    have stored := effect.stores (keptAt earlier) before ended clean (by rw [lifetime]; exact first)
    have last : (middle.history sites later).cache.lifetime = start.cache.lifetime :=
      (lifetime_history later).trans (lifetime_history (earlier ++ [move]))
    have stays : _ ∈ (middle.history sites later).cache.entries :=
      history_stays (keptAt (earlier ++ [move])) later uncleared stored
        (by rw [← lifetime_history later, last]; exact atLast)
    rw [onward]
    refine ⟨_, stays, domain, rfl, ?_⟩
    unfold Cache.expired
    rw [last]
    exact atLast

/-! ### Answers -/

/-- More was answered: every report among it is what a run ended with, and none was stored. -/
def AnswersFresh (service after : CheckService σ) : Prop :=
  ∃ newer, after.answers = service.answers ++ newer ∧ ∀ answer ∈ newer, ∀ checked,
    answer.result = .ok checked → checked.cached = false ∧ ∃ id, after.EndedWith id (.ok checked.report)

theorem AnswersFresh.quiet (same : after.answers = service.answers) : AnswersFresh service after :=
  ⟨[], same.trans (List.append_nil _).symm, fun _ member => nomatch member⟩

theorem eq_of_shared {outcome : Except Crash Report} {checked : Checked}
    (told : shared outcome = .ok checked) : outcome = .ok checked.report ∧ checked.cached = false := by
  cases outcome with
  | ok report =>
    cases told
    exact ⟨rfl, rfl⟩
  | error crash => cases told

theorem Change.answersFresh (change : Change service after) : AnswersFresh service after := by
  cases change with
  | errands | looked | launched | noted | taken => exact .quiet rfl
  | refused =>
    refine ⟨_, rfl, ?_⟩
    intro answer member checked told
    cases List.mem_singleton.mp member
    cases told
  | @joined caller host id patience =>
    have how := CheckService.joined service caller id patience
    generalize service.join caller id patience = outcome at how ⊢
    cases how with
    | waits => exact .quiet rfl
    | answered past =>
      refine ⟨_, rfl, ?_⟩
      intro answer member checked told
      cases List.mem_singleton.mp member
      obtain ⟨rfl, fresh⟩ := eq_of_shared told
      obtain ⟨run, found, ended⟩ := Option.bind_eq_some_iff.mp past
      obtain ⟨known, named⟩ := mem_of_run? found
      exact ⟨fresh, id, run, known, named, ended⟩
  | @finished id run outcome found =>
    have itself : (service.finish id outcome).EndedWith id outcome := endedWith_finish found outcome
    rw [finish_eq] at itself ⊢
    refine ⟨_, rfl, ?_⟩
    intro answer member checked told
    obtain ⟨caller, -, rfl⟩ := List.mem_map.mp member
    obtain ⟨rfl, fresh⟩ := eq_of_shared told
    exact ⟨fresh, id, itself⟩

theorem Changes.answersFresh (changes : Changes service after) (tracked : Tracked service) :
    AnswersFresh service after := by
  induction changes with
  | refl => exact .quiet rfl
  | tail first last ih =>
    obtain ⟨newer, grown, fresh⟩ := ih
    obtain ⟨newest, grown', fresh'⟩ := last.answersFresh
    refine ⟨newer ++ newest, by rw [grown', grown, List.append_assoc], ?_⟩
    intro answer member checked told
    rcases List.mem_append.mp member with earlier | latest
    · obtain ⟨run, id, ended⟩ := fresh answer earlier checked told
      exact ⟨run, id, last.endedWith (tracked.changes first) ended⟩
    · exact fresh' answer latest checked told

/-- A caller who asks for a host gets the report that is stored for it. -/
def Recalls (service : CheckService σ) (move : Move) (caller : Nat) (report : Report) : Prop :=
  ∃ domain patience host, service.eventOf? move = some (.arrive caller domain patience) ∧
    patience ≠ some 0 ∧ Host.ofValue domain = .ok host ∧
    (service.cache.get service.cacheClock host).1 = some report

/-- Every report that is answered is what a run ended with, and counts as not stored, or it is one
that was stored. -/
theorem answers_perform (sites : CheckSites σ) (tracked : Tracked service) {move : Move}
    (recorded : ∀ inquiries, move ≠ .ask inquiries) :
    ∃ newer, (service.perform sites move).answers = service.answers ++ newer ∧
      ∀ answer ∈ newer, ∀ checked, answer.result = .ok checked →
        (checked.cached = false ∧ ∃ id, (service.perform sites move).EndedWith id (.ok checked.report)) ∨
        (checked.cached = true ∧ Recalls service move answer.caller checked.report) := by
  have ended := performed sites service move
  generalize service.perform sites move = outcome at ended ⊢
  cases ended with
  | changed changes =>
    obtain ⟨newer, grown, fresh⟩ := Changes.answersFresh changes tracked
    exact ⟨newer, grown, fun answer member checked told => .inl (fresh answer member checked told)⟩
  | @recalled caller domain patience host report agenda event changes patient reads stored =>
    refine ⟨_, rfl, ?_⟩
    intro answer member checked told
    cases List.mem_singleton.mp member
    cases told
    exact .inr ⟨rfl, domain, patience, host, event, patient, reads, stored⟩
  | gaveUp change =>
    obtain ⟨newer, grown, fresh⟩ := change.answersFresh
    refine ⟨newer ++ _, (congrArg (· ++ _) grown).trans (List.append_assoc _ _ _), ?_⟩
    intro answer member checked told
    rcases List.mem_append.mp member with earlier | latest
    · exact .inl (fresh answer earlier checked told)
    · cases List.mem_singleton.mp latest
      cases told
  | forgot | passed | cleared =>
    exact ⟨[], (List.append_nil _).symm, fun _ member => nomatch member⟩
  | asked asks => exact absurd asks (recorded _)

/-- A caller whose report is stored gets it, and nothing is sent. -/
theorem perform_of_recalls {move : Move} {caller : Nat} {report : Report}
    (recalls : Recalls service move caller report) :
    (service.perform sites move).answers =
        service.answers ++ [⟨caller, service.now, .ok ⟨report, true⟩⟩] ∧
      SendsNothing service (service.perform sites move) := by
  obtain ⟨domain, patience, host, event, patient, reads, stored⟩ := recalls
  obtain ⟨agenda, arrives⟩ := @perform_arrive _ sites _ _ _ _ _ event
  let asked : CheckService σ := { service with agenda }
  have stored' : (asked.cache.get asked.cacheClock host).1 = some report := stored
  have answered : asked.arrive sites caller domain patience = _ :=
    arrive_of_stored patient reads stored'
  rw [arrives, answered]
  exact ⟨rfl, rfl, rfl, rfl, rfl, rfl⟩

theorem Changes.answers (changes : Changes service after) :
    ∃ newer, after.answers = service.answers ++ newer := by
  induction changes with
  | refl => exact ⟨[], (List.append_nil _).symm⟩
  | tail _ last ih =>
    obtain ⟨newer, grown⟩ := ih
    obtain ⟨newest, grown', -⟩ := last.answersFresh
    exact ⟨newer ++ newest, by rw [grown', grown, List.append_assoc]⟩

/-- A caller whose report is not stored has a run launched if none is on record, and shares it. -/
theorem arrive_launches {caller : Nat} {domain : Value} {patience : Option Nat} {host : String}
    (patient : patience ≠ some 0) (reads : Host.ofValue domain = .ok host)
    (missing : (service.cache.get service.cacheClock host).1 = none)
    (unknown : service.flights.run? host = none) :
    service.nextRun host ∈ (service.arrive sites caller domain patience).flights ∧
      Served (service.arrive sites caller domain patience) service.answers caller
        (service.nextRun host) := by
  let id := service.nextRun host
  let looked : CheckService σ :=
    { service with cache := (service.cache.get service.cacheClock host).2 }
  have shares : service.arrive sites caller domain patience =
      (looked.launch sites id).join caller id patience := by
    rw [arrive_of_missing patient reads missing]
    simp only [share, unknown]
    rfl
  have boarded : id ∈ (looked.launch sites id).flights := by
    rw [flights_launch]
    exact List.mem_append_right _ (List.mem_singleton.mpr rfl)
  obtain ⟨newer, grown⟩ := Changes.answers
    (@labours_launch _ sites looked host (Cache.entry?_of_get_eq_none missing) unknown).changes
  rw [shares]
  constructor
  · rw [flights_join]
    exact boarded
  · obtain ⟨newest, grown', state⟩ := @served_join _ (looked.launch sites id) id caller patience
    refine ⟨newer ++ newest, by rw [grown', ← List.append_assoc]; exact congrArg (· ++ _) grown, ?_⟩
    refine state.imp_right ?_
    rintro ⟨answer, member, rest⟩
    exact ⟨answer, List.mem_append_right _ member, rest⟩

theorem Kept.errors_of_isClean (kept : Kept service) {report : Report}
    (ended : service.EndedWith id (.ok report)) (clean : report.isClean) :
    report.reputation.error = none ∧ report.archive.error = none :=
  Report.errors_of_isClean (kept.reports id report ended).2 clean

/-- An entry would come from the latest run of its domain, and that ended with an error. -/
theorem Kept.entry?_of_failed (kept : Kept service) {report : Report}
    (ended : service.EndedWith id (.ok report))
    (failed : report.reputation.error ≠ none ∨ report.archive.error ≠ none)
    (newest : service.Latest id) : service.cache.entry? id.domain = none := by
  refine Cache.entry?_eq_none.mpr ?_
  intro entry member same
  obtain ⟨source, about, latest, ended', clean⟩ := kept.sources entry member
  cases latest.unique newest (about.trans same)
  cases kept.tracked.outcome_unique ended ended'
  obtain ⟨reputation, archive⟩ := kept.errors_of_isClean ended clean
  exact failed.elim (fun told => told reputation) (fun told => told archive)

theorem Tracked.run?_of_forgotten (tracked : Tracked service) (newest : service.Latest id)
    (forgotten : id ∉ service.flights) : service.flights.run? id.domain = none := by
  refine Flights.run?_eq_none.mpr ?_
  intro other boarded same
  cases Latest.unique (tracked.latest other boarded) newest same
  exact forgotten boarded

/-- What holds of the reports that a service has stored and answers. -/
structure FaithfulRecall (sites : CheckSites σ) (service : CheckService σ)
    (stored : String → Report → Prop) : Prop where
  /-- What is stored for a domain is what a run of the domain ended with, and tells no error. -/
  clean : ∀ entry ∈ service.cache.entries, entry.value.domain = entry.key ∧
    entry.value.reputation.error = none ∧ entry.value.archive.error = none ∧
    ∃ id, id.domain = entry.key ∧ service.EndedWith id (.ok entry.value)
  /-- Whoever asks for a domain gets a stored report exactly when there is one. -/
  recalled : ∀ move caller domain patience host report,
    service.eventOf? move = some (.arrive caller domain patience) → patience ≠ some 0 →
    Host.ofValue domain = .ok host →
      (stored host report ↔ (service.perform sites move).answers =
        service.answers ++ [⟨caller, service.now, .ok ⟨report, true⟩⟩])
  /-- Then nothing is sent, no run is started and nobody logs in. -/
  silent : ∀ move caller domain patience host report,
    service.eventOf? move = some (.arrive caller domain patience) → patience ≠ some 0 →
    Host.ofValue domain = .ok host → stored host report →
      SendsNothing service (service.perform sites move)
  /-- All other reports that are answered are what runs ended with, and count as not stored. -/
  fresh : ∀ move, (∀ inquiries, move ≠ .ask inquiries) →
    ∃ newer, (service.perform sites move).answers = service.answers ++ newer ∧
      ∀ answer ∈ newer, ∀ checked, answer.result = .ok checked →
        (checked.cached = false ∧
          ∃ id, (service.perform sites move).EndedWith id (.ok checked.report)) ∨
        (checked.cached = true ∧ ∃ domain patience host,
          service.eventOf? move = some (.arrive answer.caller domain patience) ∧
          Host.ofValue domain = .ok host ∧ stored host checked.report)
  /-- When the latest run of a domain ended with an error and is forgotten, whoever asks for the
  domain next has a new run made, and shares that. -/
  recomputed : ∀ id report, service.EndedWith id (.ok report) →
    report.reputation.error ≠ none ∨ report.archive.error ≠ none → service.Latest id →
    id ∉ service.flights → ∀ move caller domain patience,
      service.eventOf? move = some (.arrive caller domain patience) → patience ≠ some 0 →
      Host.ofValue domain = .ok id.domain →
        service.nextRun id.domain ∉ service.ids ∧
        service.nextRun id.domain ∈ (service.perform sites move).flights ∧
        Served (service.perform sites move) service.answers caller (service.nextRun id.domain)

/-- Only clean reports are stored, and they are recalled as they were stored, until they are too
old or dropped. -/
theorem faithful_recall (sites : CheckSites σ) (server : σ) (credentials : Credentials)
    (lifetime : Measure) (moves : List Move) :
    FaithfulRecall sites ((CheckService.new server credentials lifetime).history sites moves)
      (StoredSince sites (CheckService.new server credentials lifetime) moves) := by
  have kept := kept_history sites server credentials lifetime moves
  have stored := @get_eq_some_iff _ sites (CheckService.new server credentials lifetime) rfl
    (.new server credentials lifetime) moves
  generalize StoredSince sites (CheckService.new server credentials lifetime) moves = Stored at stored ⊢
  generalize (CheckService.new server credentials lifetime).history sites moves = service at kept stored ⊢
  have tracked := kept.tracked
  have recalls : ∀ move caller domain patience host report,
      service.eventOf? move = some (.arrive caller domain patience) → patience ≠ some 0 →
      Host.ofValue domain = .ok host → Stored host report → Recalls service move caller report :=
    fun move caller domain patience host report event patient reads known =>
      ⟨domain, patience, host, event, patient, reads, (stored host report).mpr known⟩
  constructor
  case clean =>
    intro entry member
    obtain ⟨id, domain, -, ended, clean⟩ := kept.sources entry member
    obtain ⟨reputation, archive⟩ := kept.errors_of_isClean ended clean
    exact ⟨(kept.reports id entry.value ended).1.trans domain, reputation, archive, id, domain, ended⟩
  case silent =>
    intro move caller domain patience host report event patient reads known
    exact (perform_of_recalls (recalls move caller domain patience host report event patient reads known)).2
  case recalled =>
    intro move caller domain patience host report event patient reads
    constructor
    · intro known
      exact (perform_of_recalls (recalls move caller domain patience host report event patient reads known)).1
    · intro answered
      -- The answer counts as stored, and of the answers of a move only recalled ones do.
      have recorded : ∀ inquiries, move ≠ .ask inquiries := by
        rintro inquiries rfl
        cases event
      obtain ⟨newer, grown, sound⟩ := answers_perform sites tracked recorded
      have newest := List.append_cancel_left (grown.symm.trans answered)
      rcases sound ⟨caller, service.now, .ok ⟨report, true⟩⟩ (by rw [newest]; exact .head _)
        ⟨report, true⟩ rfl with ⟨unstored, -⟩ | ⟨-, domain', patience', host', event', -, reads', found⟩
      · cases unstored
      · cases event.symm.trans event'
        cases reads.symm.trans reads'
        exact (stored host report).mp found
  case fresh =>
    intro move recorded
    obtain ⟨newer, grown, sound⟩ := answers_perform sites tracked recorded
    refine ⟨newer, grown, ?_⟩
    intro answer member checked told
    refine (sound answer member checked told).imp_right ?_
    rintro ⟨cached, domain, patience, host, event, -, reads, found⟩
    exact ⟨cached, domain, patience, host, event, reads, (stored host checked.report).mp found⟩
  case recomputed =>
    intro id report ended failed newest forgotten move caller domain patience event patient reads
    have missing := kept.entry?_of_failed ended failed newest
    have unknown := tracked.run?_of_forgotten newest forgotten
    obtain ⟨agenda, arrives⟩ := @perform_arrive _ sites _ _ _ _ _ event
    let asked : CheckService σ := { service with agenda }
    have unread : (asked.cache.get asked.cacheClock id.domain).1 = none := by
      simp only [Cache.get, asked, missing]
    obtain ⟨boarded, served⟩ := @arrive_launches _ sites asked caller _ _ _ patient reads unread unknown
    -- The next number of a domain was never given to a run.
    rw [arrives]
    refine ⟨?_, boarded, served⟩
    intro known
    exact absurd (tracked.numbered _ known) (Nat.lt_irrefl _)

end DomainScout.CheckService
