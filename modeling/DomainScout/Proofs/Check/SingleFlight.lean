import DomainScout.Proofs.Check.Schedule
import DomainScout.Proofs.Readings
import Mathlib.Data.List.Nodup

/-!
# One run at a time

Every unfinished run is on record, and a run on record is the latest one of its domain. So a domain
has one unfinished run at most, and whoever asks for the domain in the meantime shares it.

Main statement: `tracked_history`.
-/
namespace DomainScout.CheckService

variable {σ : Type} {sites : CheckSites σ} {service : CheckService σ} {id : RunId}

/-! ### Runs and their numbers -/

/-- The runs so far, by their names. -/
def ids (service : CheckService σ) : List RunId := service.runs.map Run.id

/-- There is a run that has ended so, or that has not ended. -/
def Stands (service : CheckService σ) (id : RunId) (outcome : Option (Except Crash Report)) :
    Prop :=
  ∃ run ∈ service.runs, run.id = id ∧ run.outcome = outcome

/-- A run has not ended yet. -/
abbrev Unfinished (service : CheckService σ) (id : RunId) : Prop := service.Stands id none

/-- A run has ended. -/
abbrev EndedWith (service : CheckService σ) (id : RunId) (outcome : Except Crash Report) : Prop :=
  service.Stands id (some outcome)

/-- A run is put down to be forgotten. -/
def Forgets (service : CheckService σ) (id : RunId) : Prop :=
  .forget id ∈ service.agenda.map Timed.item

theorem nextRun_eq (domain : String) :
    service.nextRun domain = ⟨domain, service.ids.countP (·.domain == domain)⟩ := by
  rw [ids, List.countP_map, List.countP_eq_length_filter]
  rfl

theorem Stands.mono {after : CheckService σ} {outcome : Option (Except Crash Report)}
    (stands : service.Stands id outcome) (kept : ∀ run ∈ service.runs, run ∈ after.runs) :
    after.Stands id outcome := by
  obtain ⟨run, member, named⟩ := stands
  exact ⟨run, kept run member, named⟩

theorem stands_congr {other : CheckService σ} (runs : other.runs = service.runs) (id : RunId)
    (outcome : Option (Except Crash Report)) : other.Stands id outcome ↔ service.Stands id outcome := by
  unfold Stands
  rw [runs]

theorem nextRun_congr {other : CheckService σ} (same : other.ids = service.ids) :
    other.nextRun = service.nextRun := by
  funext domain
  rw [nextRun_eq, nextRun_eq, same]

/-- A new run of a host counts as one of that host and of no other. -/
theorem number_nextRun {after : CheckService σ} {host : String}
    (runs : after.runs = service.runs ++ [Run.new (service.nextRun host)]) (domain : String) :
    (after.nextRun domain).number =
      (service.nextRun domain).number + if host = domain then 1 else 0 := by
  have names : after.ids = service.ids ++ [service.nextRun host] := by
    rw [ids, runs, List.map_append]
    rfl
  rw [nextRun_eq, names, List.countP_append, List.countP_singleton, nextRun_eq, nextRun_eq]
  simp only [beq_iff_eq]

theorem mem_updateRun {change : Run → Run} {run : Run} :
    run ∈ (service.updateRun id change).runs ↔
      ∃ earlier ∈ service.runs, run = if earlier.id = id then change earlier else earlier := by
  simp only [updateRun, List.mem_map, eq_comm]

theorem ids_updateRun {change : Run → Run} (keeps : ∀ run, (change run).id = run.id) :
    (service.updateRun id change).ids = service.ids := by
  simp only [ids, updateRun, List.map_map]
  apply List.map_congr_left
  intro run _
  simp only [Function.comp_apply]
  split
  · exact keeps run
  · rfl

/-- What a run takes in does not end it. -/
theorem stands_updateRun {change : Run → Run} (takesIn : Run.TakesIn change) (other : RunId)
    (outcome : Option (Except Crash Report)) :
    (service.updateRun id change).Stands other outcome ↔ service.Stands other outcome := by
  have kept : ∀ run : Run, (if run.id = id then change run else run).id = run.id ∧
      (if run.id = id then change run else run).outcome = run.outcome := by
    intro run
    split
    · exact ⟨takesIn.id run, takesIn.outcome run⟩
    · exact ⟨rfl, rfl⟩
  constructor
  · rintro ⟨run, member, named, stands⟩
    obtain ⟨earlier, known, rfl⟩ := mem_updateRun.mp member
    exact ⟨earlier, known, (kept earlier).1.symm.trans named, (kept earlier).2.symm.trans stands⟩
  · rintro ⟨run, member, named, stands⟩
    exact ⟨_, mem_updateRun.mpr ⟨run, member, rfl⟩, (kept run).1.trans named,
      (kept run).2.trans stands⟩

theorem mem_of_run? {run : Run} (found : service.run? id = some run) :
    run ∈ service.runs ∧ run.id = id := by
  have named := List.find?_some found
  exact ⟨List.mem_of_find?_eq_some found, eq_of_beq named⟩

theorem mem_ids_of_run? {run : Run} (found : service.run? id = some run) : id ∈ service.ids := by
  obtain ⟨member, named⟩ := mem_of_run? found
  exact List.mem_map.mpr ⟨run, member, named⟩

/-- What ends a run, in all it touches. -/
theorem finish_eq (service : CheckService σ) (id : RunId) (outcome : Except Crash Report) :
    service.finish id outcome = { service with
      runs := (service.updateRun id fun run => { run with outcome := some outcome }).runs
      cache := (service.store outcome).cache
      waiters := service.waiters.filter (·.run != id)
      agenda := (service.agenda.drop (CheckEvent.isGiveUpOf
        ((service.waiters.filter (·.run == id)).map Waiter.caller))).enter service.now (.forget id)
      answers := service.answers ++ ((service.waiters.filter (·.run == id)).map Waiter.caller).map
        fun caller => ⟨caller, service.now, shared outcome⟩ } := by
  unfold finish store
  cases outcome with
  | error crash => rfl
  | ok report =>
    by_cases clean : report.isClean
    · simp only [clean, if_true]
      rfl
    · simp only [clean]
      rfl

theorem ids_finish (outcome : Except Crash Report) :
    (service.finish id outcome).ids = service.ids := by
  rw [finish_eq]
  exact ids_updateRun fun _ => rfl

theorem stands_finish_self {outcome : Except Crash Report} (known : id ∈ service.ids)
    (standing : Option (Except Crash Report)) :
    (service.finish id outcome).Stands id standing ↔ standing = some outcome := by
  rw [finish_eq]
  constructor
  · rintro ⟨run, member, named, rfl⟩
    obtain ⟨earlier, -, rfl⟩ := mem_updateRun.mp member
    by_cases own : earlier.id = id
    · rw [if_pos own]
    · rw [if_neg own] at named
      exact absurd named own
  · rintro rfl
    obtain ⟨run, member, named⟩ := List.mem_map.mp known
    refine ⟨_, mem_updateRun.mpr ⟨run, member, rfl⟩, ?_⟩
    rw [if_pos named]
    exact ⟨named, rfl⟩

theorem endedWith_finish {run : Run} (found : service.run? id = some run)
    (outcome : Except Crash Report) : (service.finish id outcome).EndedWith id outcome :=
  (stands_finish_self (mem_ids_of_run? found) _).mpr rfl

theorem stands_finish_of_ne {outcome : Except Crash Report} {other : RunId} (differs : other ≠ id)
    (standing : Option (Except Crash Report)) :
    (service.finish id outcome).Stands other standing ↔ service.Stands other standing := by
  rw [finish_eq]
  constructor
  · rintro ⟨run, member, named, stands⟩
    obtain ⟨earlier, known, rfl⟩ := mem_updateRun.mp member
    by_cases own : earlier.id = id
    · rw [if_pos own] at named
      exact absurd (named.symm.trans own) differs
    · rw [if_neg own] at named stands
      exact ⟨earlier, known, named, stands⟩
  · rintro ⟨earlier, known, named, stands⟩
    refine ⟨_, mem_updateRun.mpr ⟨earlier, known, rfl⟩, ?_⟩
    rw [if_neg (named ▸ differs)]
    exact ⟨named, stands⟩

/-- A run that has not ended afterwards is another one, and was there before. -/
theorem mem_runs_finish {outcome : Except Crash Report} {run : Run}
    (member : run ∈ (service.finish id outcome).runs) (unfinished : run.outcome = none) :
    run ∈ service.runs ∧ run.id ≠ id := by
  rw [finish_eq] at member
  obtain ⟨earlier, known, rfl⟩ := mem_updateRun.mp member
  by_cases own : earlier.id = id
  · rw [if_pos own] at unfinished
    cases unfinished
  · rw [if_neg own]
    exact ⟨known, own⟩

theorem forgets_finish (outcome : Except Crash Report) (other : RunId) :
    (service.finish id outcome).Forgets other ↔ service.Forgets other ∨ other = id := by
  rw [finish_eq]
  simp only [Forgets, Agenda.enter, List.map_append, List.mem_append, List.map_cons, List.map_nil,
    List.mem_singleton, CheckEvent.forget.injEq]
  refine or_congr_left ?_
  simp only [List.mem_map, Agenda.drop, List.mem_filter]
  constructor
  · rintro ⟨timed, ⟨member, -⟩, forgets⟩
    exact ⟨timed, member, forgets⟩
  · rintro ⟨timed, member, forgets⟩
    refine ⟨timed, ⟨member, ?_⟩, forgets⟩
    rw [forgets]
    rfl

/-- The ways in which joining a run can end. -/
inductive Joined (service : CheckService σ) (caller : Nat) (id : RunId) : CheckService σ → Prop
  | answered {outcome : Except Crash Report} (past : (service.run? id).bind Run.outcome = some outcome) :
      Joined service caller id (service.answer caller (shared outcome))
  | waits {more : Agenda CheckEvent} (unfinished : (service.run? id).bind Run.outcome = none)
      (only : ∀ timed ∈ more, timed.item = .giveUp caller) :
      Joined service caller id { service with
        waiters := service.waiters ++ [⟨caller, id⟩], agenda := service.agenda ++ more }

theorem joined (service : CheckService σ) (caller : Nat) (id : RunId) (patience : Option Nat) :
    Joined service caller id (service.join caller id patience) := by
  unfold join
  split
  next outcome past => exact .answered past
  next unfinished =>
    cases patience with
    | none =>
      have waits : Joined service caller id { service with
          waiters := service.waiters ++ [⟨caller, id⟩], agenda := service.agenda ++ [] } :=
        .waits unfinished nofun
      rw [List.append_nil] at waits
      exact waits
    | some milliseconds =>
      refine .waits unfinished ?_
      intro timed member
      cases List.mem_singleton.mp member
      rfl

section Join

variable {caller : Nat} {patience : Option Nat}

/-- Joining concerns the caller and nothing else. -/
theorem join_eq (service : CheckService σ) (caller : Nat) (id : RunId) (patience : Option Nat) :
    ∃ waiters agenda answers,
      service.join caller id patience = { service with waiters, agenda, answers } := by
  have how := joined service caller id patience
  generalize service.join caller id patience = outcome at how ⊢
  cases how <;> exact ⟨_, _, _, rfl⟩

@[simp] theorem runs_join : (service.join caller id patience).runs = service.runs := by
  obtain ⟨_, _, _, eq⟩ := join_eq service caller id patience
  rw [eq]

@[simp] theorem flights_join : (service.join caller id patience).flights = service.flights := by
  obtain ⟨_, _, _, eq⟩ := join_eq service caller id patience
  rw [eq]

@[simp] theorem cache_join : (service.join caller id patience).cache = service.cache := by
  obtain ⟨_, _, _, eq⟩ := join_eq service caller id patience
  rw [eq]

@[simp] theorem now_join : (service.join caller id patience).now = service.now := by
  obtain ⟨_, _, _, eq⟩ := join_eq service caller id patience
  rw [eq]

end Join

/-! ### The invariant -/

/-- What the service knows of its runs, at any moment. -/
structure Tracked (service : CheckService σ) : Prop where
  distinct : service.ids.Nodup
  numbered : ∀ id ∈ service.ids, id.number < (service.nextRun id.domain).number
  /-- A run on record is the latest one of its domain. -/
  latest : ∀ id ∈ service.flights, id.number + 1 = (service.nextRun id.domain).number
  onRecord : ∀ id, service.Unfinished id → id ∈ service.flights
  /-- A run on record that has ended is put down to be forgotten. -/
  lingering : ∀ id ∈ service.flights,
    service.Unfinished id ∨ (∃ outcome, service.EndedWith id outcome) ∧ service.Forgets id
  /-- Only runs that have ended are put down to be forgotten. -/
  past : ∀ id, service.Forgets id → ∃ outcome, service.EndedWith id outcome
  waiting : ∀ waiter ∈ service.waiters, service.Unfinished waiter.run

namespace Tracked

theorem run?_of_mem (tracked : Tracked service) {run : Run} (member : run ∈ service.runs) :
    service.run? run.id = some run :=
  (find?_eq_some_iff_of_nodup tracked.distinct).mpr ⟨member, rfl⟩

/-- A run ends once. -/
theorem not_unfinished (tracked : Tracked service) {outcome : Except Crash Report}
    (ended : service.EndedWith id outcome) : ¬ service.Unfinished id := by
  rintro ⟨run, member, named, unfinished⟩
  obtain ⟨other, known, alike, outcome⟩ := ended
  have same := List.inj_on_of_nodup_map tracked.distinct member known (named.trans alike.symm)
  rw [same, outcome] at unfinished
  cases unfinished

theorem outcome_unique (tracked : Tracked service) {first second : Except Crash Report}
    (one : service.EndedWith id first) (other : service.EndedWith id second) : first = second := by
  obtain ⟨run, member, named, outcome⟩ := one
  obtain ⟨run', member', named', outcome'⟩ := other
  have same := List.inj_on_of_nodup_map tracked.distinct member member' (named.trans named'.symm)
  rw [same, outcome'] at outcome
  exact (Option.some.inj outcome).symm

/-- Runs on record are told apart by their domains. -/
theorem eq_of_domain (tracked : Tracked service) {other : RunId} (first : id ∈ service.flights)
    (second : other ∈ service.flights) (same : id.domain = other.domain) : id = other := by
  have one := tracked.latest id first
  have two := tracked.latest other second
  rw [same] at one
  obtain ⟨domain, number⟩ := id
  obtain ⟨domain', number'⟩ := other
  simp only at same one two
  subst same
  congr 1
  omega

theorem run?_flights (tracked : Tracked service) (member : id ∈ service.flights) :
    service.flights.run? id.domain = some id := by
  cases found : service.flights.run? id.domain with
  | none => exact absurd rfl (Flights.run?_eq_none.mp found id member)
  | some other =>
    obtain ⟨known, named⟩ := Flights.mem_of_run? found
    rw [tracked.eq_of_domain known member named]

/-- Nothing is on record but what has not ended or is still to be forgotten. -/
theorem flights_eq_nil (tracked : Tracked service) (finished : ∀ run ∈ service.runs, run.outcome ≠ none)
    (forgotten : ∀ id, ¬ service.Forgets id) : service.flights = [] := by
  refine List.eq_nil_iff_forall_not_mem.mpr fun id boarded => ?_
  rcases tracked.lingering id boarded with ⟨run, member, -, unfinished⟩ | ⟨-, forgets⟩
  · exact finished run member unfinished
  · exact forgotten id forgets

theorem new (server : σ) (credentials : Credentials) (lifetime : Measure) :
    Tracked (CheckService.new server credentials lifetime) where
  distinct := List.nodup_nil
  numbered _ member := nomatch member
  latest _ member := nomatch member
  onRecord _ unfinished := nomatch unfinished.choose_spec.1
  lingering _ member := nomatch member
  past _ forgets := nomatch forgets
  waiting _ member := nomatch member

variable {after : CheckService σ}

/-- The invariant speaks of which runs have ended, of the record, of the waiters and of what is to
be forgotten. -/
theorem congr (tracked : Tracked service) (ids : after.ids = service.ids)
    (stands : ∀ id outcome, after.Stands id outcome ↔ service.Stands id outcome)
    (flights : after.flights = service.flights) (waiters : after.waiters = service.waiters)
    (forgets : ∀ id, after.Forgets id ↔ service.Forgets id) : Tracked after := by
  constructor
  case distinct =>
    rw [ids]
    exact tracked.distinct
  case numbered =>
    rw [ids, nextRun_congr ids]
    exact tracked.numbered
  case latest =>
    rw [flights, nextRun_congr ids]
    exact tracked.latest
  case onRecord =>
    simp only [flights, stands]
    exact tracked.onRecord
  case lingering =>
    simp only [flights, stands, forgets]
    exact tracked.lingering
  case past =>
    simp only [stands, forgets]
    exact tracked.past
  case waiting =>
    simp only [waiters, stands]
    exact tracked.waiting

theorem same (tracked : Tracked service) (runs : after.runs = service.runs)
    (flights : after.flights = service.flights) (waiters : after.waiters = service.waiters)
    (agenda : after.agenda = service.agenda) : Tracked after := by
  refine tracked.congr ?_ ?_ flights waiters ?_
  · rw [ids, ids, runs]
  · exact stands_congr runs
  · unfold Forgets
    rw [agenda]
    exact fun _ => .rfl

/-- Events put on the agenda leave what is to be forgotten alone unless they say so. -/
theorem forgets_append {more : Agenda CheckEvent}
    (only : ∀ timed ∈ more, ∀ id, timed.item ≠ .forget id) (id : RunId) :
    Forgets { service with agenda := service.agenda ++ more } id ↔ service.Forgets id := by
  simp only [Forgets, List.map_append, List.mem_append]
  constructor
  · rintro (known | added)
    · exact known
    · obtain ⟨timed, member, forgets⟩ := List.mem_map.mp added
      exact absurd forgets (only timed member id)
  · exact .inl

/-- A domain that has no run on record gets its next one. -/
theorem launched (tracked : Tracked service) {host : String}
    (unknown : service.flights.run? host = none) :
    Tracked { service with
      runs := service.runs ++ [Run.new (service.nextRun host)]
      flights := service.flights.board (service.nextRun host) } := by
  have unheard := Flights.run?_eq_none.mp unknown
  have fresh : service.nextRun host ∉ service.ids := by
    intro known
    have bound := tracked.numbered _ known
    exact Nat.lt_irrefl _ bound
  have names : ids { service with
      runs := service.runs ++ [Run.new (service.nextRun host)]
      flights := service.flights.board (service.nextRun host) } =
      service.ids ++ [service.nextRun host] := List.map_append
  have stays : ∀ {id outcome}, service.Stands id outcome → Stands { service with
      runs := service.runs ++ [Run.new (service.nextRun host)]
      flights := service.flights.board (service.nextRun host) } id outcome :=
    fun stands => stands.mono fun _ => List.mem_append_left _
  constructor
  case distinct =>
    rw [names]
    refine List.nodup_append.mpr ⟨tracked.distinct, List.nodup_singleton _, ?_⟩
    rintro id known other added rfl
    exact fresh (List.mem_singleton.mp added ▸ known)
  case numbered =>
    intro id member
    rw [number_nextRun rfl]
    rw [names] at member
    rcases List.mem_append.mp member with known | added
    · have bound := tracked.numbered id known
      omega
    · cases List.mem_singleton.mp added
      change (service.nextRun host).number < (service.nextRun host).number + if host = host then 1 else 0
      rw [if_pos rfl]
      omega
  case latest =>
    intro id member
    rw [number_nextRun rfl]
    -- Runs of other domains keep their places, and of this one nothing was on record.
    rcases List.mem_append.mp member with known | added
    · rw [if_neg fun same => unheard id known same.symm]
      exact tracked.latest id known
    · cases List.mem_singleton.mp added
      change (service.nextRun host).number + 1 = (service.nextRun host).number + if host = host then 1 else 0
      rw [if_pos rfl]
  case onRecord =>
    rintro id ⟨run, member, named, unfinished⟩
    rcases List.mem_append.mp member with known | added
    · exact List.mem_append_left _ (tracked.onRecord id ⟨run, known, named, unfinished⟩)
    · cases List.mem_singleton.mp added
      cases named
      exact List.mem_append_right _ (List.mem_singleton.mpr rfl)
  case lingering =>
    intro id member
    rcases List.mem_append.mp member with known | added
    · rcases tracked.lingering id known with unfinished | ⟨⟨outcome, ended⟩, forgets⟩
      · exact .inl (stays unfinished)
      · exact .inr ⟨⟨outcome, stays ended⟩, forgets⟩
    · cases List.mem_singleton.mp added
      exact .inl ⟨_, List.mem_append_right _ (List.mem_singleton.mpr rfl), rfl, rfl⟩
  case past =>
    intro id forgets
    obtain ⟨outcome, ended⟩ := tracked.past id forgets
    exact ⟨outcome, stays ended⟩
  case waiting =>
    intro waiter waits
    exact stays (tracked.waiting waiter waits)

/-- A caller who joins waits for a run that has not ended. -/
theorem joined (tracked : Tracked service) {caller : Nat} {patience : Option Nat} {host : String}
    (onRecord : service.flights.run? host = some id) : Tracked (service.join caller id patience) := by
  have ended := CheckService.joined service caller id patience
  generalize service.join caller id patience = outcome at ended ⊢
  cases ended with
  | answered => exact tracked.same rfl rfl rfl rfl
  | @waits more unfinished only =>
    have forgets : ∀ id, Forgets { service with agenda := service.agenda ++ more } id ↔
        service.Forgets id :=
      forgets_append fun timed member id forgets => nomatch (only timed member).symm.trans forgets
    constructor
    case distinct => exact tracked.distinct
    case numbered => exact tracked.numbered
    case latest => exact tracked.latest
    case onRecord => exact tracked.onRecord
    case lingering =>
      intro id member
      exact (tracked.lingering id member).imp_right (.imp_right (forgets id).mpr)
    case past => exact fun id forgetting => tracked.past id ((forgets id).mp forgetting)
    case waiting =>
      intro waiter member
      rcases List.mem_append.mp member with known | added
      · exact tracked.waiting waiter known
      cases List.mem_singleton.mp added
      obtain ⟨boarded, -⟩ := Flights.mem_of_run? onRecord
      -- Were the run over, the caller would have been answered.
      rcases tracked.lingering id boarded with waits | ⟨⟨outcome, run, member, named, past⟩, -⟩
      · exact waits
      · have found := tracked.run?_of_mem member
        rw [named] at found
        rw [found, Option.bind_some, past] at unfinished
        cases unfinished

theorem noted (tracked : Tracked service) {change : Run → Run} (takesIn : Run.TakesIn change) :
    Tracked (service.updateRun id change) :=
  tracked.congr (ids_updateRun takesIn.id) (stands_updateRun takesIn) rfl rfl fun _ => .rfl

/-- A run that ends stops nobody but those who waited for it. -/
theorem finished (tracked : Tracked service) {run : Run} (found : service.run? id = some run)
    (outcome : Except Crash Report) : Tracked (service.finish id outcome) := by
  have known : id ∈ service.ids := mem_ids_of_run? found
  constructor
  case distinct =>
    rw [ids_finish]
    exact tracked.distinct
  case numbered =>
    rw [ids_finish, nextRun_congr (ids_finish outcome)]
    exact tracked.numbered
  case latest =>
    rw [flights_finish, nextRun_congr (ids_finish outcome)]
    exact tracked.latest
  case onRecord =>
    intro other unfinished
    rw [flights_finish]
    by_cases own : other = id
    · rw [own] at unfinished
      cases (stands_finish_self known none).mp unfinished
    · exact tracked.onRecord other ((stands_finish_of_ne own none).mp unfinished)
  case lingering =>
    -- The run that ends is put down to be forgotten at the same moment.
    intro other boarded
    rw [flights_finish] at boarded
    by_cases own : other = id
    · subst own
      exact .inr ⟨⟨outcome, endedWith_finish found outcome⟩, (forgets_finish outcome other).mpr (.inr rfl)⟩
    · simp only [stands_finish_of_ne own, forgets_finish]
      exact (tracked.lingering other boarded).imp_right (.imp_right .inl)
  case past =>
    intro other forgets
    by_cases own : other = id
    · exact ⟨outcome, own ▸ endedWith_finish found outcome⟩
    · simp only [stands_finish_of_ne own]
      exact tracked.past other (((forgets_finish outcome other).mp forgets).resolve_right own)
  case waiting =>
    intro waiter waits
    rw [finish_eq] at waits
    obtain ⟨waits, elsewhere⟩ := List.mem_filter.mp waits
    exact (stands_finish_of_ne (bne_iff_ne.mp elsewhere) none).mpr (tracked.waiting waiter waits)

/-- A run is forgotten after it has ended, so no unfinished run leaves the record. -/
theorem forgotten (tracked : Tracked service) {before rest : Agenda CheckEvent} {due : Nat}
    (place : service.agenda = before ++ ⟨due, .forget id⟩ :: rest) :
    Tracked { service with agenda := before ++ rest, flights := service.flights.forget id } := by
  have split : ∀ other, service.Forgets other ↔ other = id ∨
      Forgets { service with agenda := before ++ rest, flights := service.flights.forget id } other := by
    intro other
    simp only [Forgets, place, List.map_append, List.map_cons, List.mem_append, List.mem_cons,
      CheckEvent.forget.injEq]
    tauto
  obtain ⟨outcome, ended⟩ := tracked.past id ((split id).mpr (.inl rfl))
  constructor
  case distinct => exact tracked.distinct
  case numbered => exact tracked.numbered
  case latest =>
    intro other boarded
    exact tracked.latest other (Flights.mem_forget.mp boarded).1
  case onRecord =>
    intro other unfinished
    refine Flights.mem_forget.mpr ⟨tracked.onRecord other unfinished, ?_⟩
    rintro rfl
    exact tracked.not_unfinished ended unfinished
  case lingering =>
    intro other boarded
    obtain ⟨boarded, differs⟩ := Flights.mem_forget.mp boarded
    refine (tracked.lingering other boarded).imp_right (.imp_right fun forgets => ?_)
    exact ((split other).mp forgets).resolve_left differs
  case past => exact fun other forgets => tracked.past other ((split other).mpr (.inr forgets))
  case waiting => exact tracked.waiting

theorem changed (tracked : Tracked service) (change : Change service after) : Tracked after := by
  cases change with
  | errands only =>
    refine tracked.congr rfl (fun _ _ => .rfl) rfl rfl (forgets_append ?_)
    intro timed member id forgets
    have errand := only timed member
    rw [forgets] at errand
    cases errand
  | refused | looked =>
    exact tracked.same rfl rfl rfl rfl
  | launched _ unknown => exact tracked.launched unknown
  | joined onRecord => exact tracked.joined onRecord
  | noted takesIn => exact tracked.noted takesIn
  | finished found => exact tracked.finished found _
  | @taken before rest timed place other =>
    refine tracked.congr rfl (fun _ _ => .rfl) rfl rfl ?_
    intro id
    simp only [Forgets, place, List.map_append, List.map_cons, List.mem_append, List.mem_cons]
    have differs := (other id).symm
    tauto

theorem changes (tracked : Tracked service) (changes : Changes service after) : Tracked after := by
  induction changes with
  | refl => exact tracked
  | tail _ last ih => exact ih.changed last

theorem gaveUp (tracked : Tracked service) (caller : Nat) : Tracked (service.giveUp caller) where
  distinct := tracked.distinct
  numbered := tracked.numbered
  latest := tracked.latest
  onRecord := tracked.onRecord
  lingering := tracked.lingering
  past := tracked.past
  waiting waiter waits := tracked.waiting waiter (List.mem_filter.mp waits).1

theorem ask (tracked : Tracked service) (inquiries : List Inquiry) :
    Tracked (service.ask inquiries) := by
  refine tracked.congr rfl (fun _ _ => .rfl) rfl rfl (forgets_append ?_)
  intro timed member id forgets
  obtain ⟨inquiry, -, rfl⟩ := List.mem_map.mp member
  cases forgets

theorem perform (tracked : Tracked service) (move : Move) :
    Tracked (service.perform sites move) :=
  preserved_perform (fun change holds => holds.changed change) (fun _ _ holds => holds.same rfl rfl rfl rfl)
    (fun caller holds => holds.gaveUp caller) (fun place holds => holds.forgotten place)
    (fun _ holds => holds.same rfl rfl rfl rfl) (fun holds => holds.same rfl rfl rfl rfl) (fun inquiries holds => holds.ask inquiries)
    tracked

end Tracked

/-- The invariant holds whatever happens to a service. -/
theorem tracked_history (sites : CheckSites σ) (server : σ) (credentials : Credentials)
    (lifetime : Measure) (moves : List Move) :
    Tracked ((new server credentials lifetime).history sites moves) :=
  preserved_history (fun move holds => holds.perform move) (.new server credentials lifetime) moves

/-- What a run ended with stays. -/
theorem Change.endedWith {after : CheckService σ} (change : Change service after) {outcome : Except Crash Report}
    (tracked : Tracked service) (ended : service.EndedWith id outcome) :
    after.EndedWith id outcome := by
  cases change with
  | errands | refused | looked | taken => exact ended
  | launched => exact ended.mono fun _ => List.mem_append_left _
  | joined => exact (stands_congr runs_join _ _).mpr ended
  | noted takesIn => exact (stands_updateRun takesIn _ _).mpr ended
  | @finished other run outcome' found unfinished =>
    obtain ⟨member, named⟩ := mem_of_run? found
    by_cases own : id = other
    · exact absurd ⟨run, member, named.trans own.symm, unfinished⟩ (tracked.not_unfinished ended)
    · exact (stands_finish_of_ne own _).mpr ended

end DomainScout.CheckService
