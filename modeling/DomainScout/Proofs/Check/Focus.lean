import DomainScout.Proofs.Access.Desk
import DomainScout.Proofs.Check.Storing
import DomainScout.Proofs.Remote.Subject

/-!
# One domain among others

A service that checks many domains is compared with one that is only asked for a single one of them.
The two hold the same of the domain: its runs, who waits for them, what is on the agenda for it, what
was sent about it and answered to those who ask for it. Where every caller asks for one domain and a
fixed key spares all logins, each event keeps this up: an event of the domain happens to both
services, and any other event makes no difference to what is held of the domain.

Main statement: `Respects.step`.
-/
namespace DomainScout

open Remote

section Lists

variable {α : Type} {items : List α} {first second : α → Bool}

theorem find?_filter_of_imp (implies : ∀ item ∈ items, second item = true → first item = true) :
    (items.filter first).find? second = items.find? second := by
  rw [List.find?_filter]
  apply List.find?_congr
  intro item member
  cases holds : second item with
  | true => simp [implies item member holds]
  | false => simp

theorem filter_filter_of_imp (implies : ∀ item ∈ items, second item = true → first item = true) :
    (items.filter first).filter second = items.filter second := by
  rw [List.filter_filter]
  apply List.filter_congr
  intro item member
  cases holds : second item with
  | true => simp [implies item member holds]
  | false => simp

end Lists

/-- What is asked for is read as a domain. -/
def asksFor (domain : String) (asked : Value) : Bool :=
  match Host.ofValue asked with
  | .ok host => host == domain
  | .error _ => false

/-- One domain among others, and who asks for it. -/
structure Focus where
  domain : String
  ours : Nat → Bool

namespace Focus

/-- The run is one of the domain. -/
def owns (focus : Focus) (id : RunId) : Bool := id.domain == focus.domain

/-- The event is one of a run of the domain, or of somebody who asks for it. -/
def concerns (focus : Focus) : CheckEvent → Bool
  | .arrive caller _ _ | .giveUp caller => focus.ours caller
  | .send id _ _ | .ended id _ _ _ | .forget id => focus.owns id

/-- What is kept of an event where only the domain is asked for. -/
def keep? (focus : Focus) (event : CheckEvent) : Option CheckEvent :=
  if focus.concerns event then some event else none

/-- Callers ask for the domain exactly if they are known to, and nobody logs in. -/
def Fits (focus : Focus) : CheckEvent → Prop
  | .arrive caller asked _ => focus.ours caller = asksFor focus.domain asked
  | .send _ errand _ | .ended _ errand _ _ => ∀ user password, errand ≠ .logIn user password
  | .giveUp _ | .forget _ => True

variable {focus : Focus} {event : CheckEvent}

theorem keep?_of_concerns (mine : focus.concerns event = true) : focus.keep? event = some event :=
  if_pos mine

theorem keep?_of_foreign (foreign : focus.concerns event = false) : focus.keep? event = none := by
  simp [keep?, foreign]

theorem owns_iff {id : RunId} : focus.owns id = true ↔ id.domain = focus.domain := beq_iff_eq

/-- Dropping those of the domain who give up is the same wherever it is done. -/
theorem sift_drop (agenda : Agenda CheckEvent) (callers : List Nat) :
    (agenda.drop (CheckEvent.isGiveUpOf callers)).sift focus.keep? =
      (agenda.sift focus.keep?).drop (CheckEvent.isGiveUpOf callers) := by
  unfold Agenda.sift Agenda.drop
  rw [List.filterMap_filter, List.filter_filterMap]
  apply List.filterMap_congr
  intro timed _
  by_cases mine : focus.concerns timed.item = true <;>
    by_cases gone : CheckEvent.isGiveUpOf callers timed.item = true <;>
      simp [keep?, mine, gone, Option.filter]

/-- That others do not give up any more makes no difference. -/
theorem sift_drop_others {callers : List Nat} (others : ∀ caller ∈ callers, focus.ours caller = false)
    (agenda : Agenda CheckEvent) :
    (agenda.drop (CheckEvent.isGiveUpOf callers)).sift focus.keep? = agenda.sift focus.keep? := by
  unfold Agenda.sift Agenda.drop
  rw [List.filterMap_filter]
  apply List.filterMap_congr
  rintro ⟨due, event⟩ _
  cases event with
  | giveUp caller =>
    by_cases gone : caller ∈ callers
    · simp [keep?, concerns, others caller gone]
    · simp [CheckEvent.isGiveUpOf, gone]
  | arrive | send | ended | forget => simp [CheckEvent.isGiveUpOf]

end Focus

/-- A domain, and what the service is like that is asked for it and others: where it asks with which
key, and that the remote services keep the domain apart. -/
structure Stage (σ : Type) extends Focus where
  sites : CheckSites σ
  start : σ
  key : String
  separate : KeepsApart sites.serve start domain

theorem CheckSites.subject_plan {σ : Type} (sites : CheckSites σ) (host : String) {errand : Errand}
    (check : ∀ user password, errand ≠ .logIn user password) :
    (sites.plan host errand).subject = some host := by
  cases errand with
  | logIn user password => exact absurd rfl (check user password)
  | lookup | availability | snapshots => rfl

theorem Run.id_withReputation (report : Except Crash ReputationReport) (run : Run) :
    (run.withReputation report).id = run.id := rfl

namespace CheckService

variable {σ : Type} {stage : Stage σ} {service only : CheckService σ} {id : RunId}

/-- The other service holds of the domain what the one does, and nothing else. -/
structure Apart (stage : Stage σ) (service only : CheckService σ) : Prop where
  now : only.now = service.now
  servers : Twins stage.sites.serve stage.start stage.domain service.server only.server
  key : service.desk.credentials.key? = some stage.key
  key' : only.desk.credentials.key? = some stage.key
  caches : Cache.SameFor stage.domain service.now service.cache only.cache
  flights : only.flights = service.flights.filter stage.owns
  runs : only.runs = service.runs.filter (stage.owns ·.id)
  waiters : only.waiters = service.waiters.filter (stage.ours ·.caller)
  agenda : only.agenda = service.agenda.sift stage.keep?
  sent : only.sent = service.sent.filter (·.request.isAbout stage.domain)
  answers : only.answers = service.answers.filter (stage.ours ·.caller)
  /-- Callers wait for a run of the domain exactly if they are known to ask for it. -/
  waiting : ∀ waiter ∈ service.waiters, stage.ours waiter.caller = stage.owns waiter.run
  fitting : ∀ timed ∈ service.agenda, stage.Fits timed.item

/-- What respects that the services are apart: done to both if it is about the domain, and to the one
alone if it is not. -/
structure Respects (stage : Stage σ) (mine : Bool) (act : CheckService σ → CheckService σ) : Prop where
  both (about : mine = true) {service only : CheckService σ} :
    Apart stage service only → Apart stage (act service) (act only)
  one (foreign : mine = false) {service only : CheckService σ} :
    Apart stage service only → Apart stage (act service) only

namespace Apart

variable (apart : Apart stage service only)
include apart

theorem cacheClock : only.cacheClock = service.cacheClock := by
  rw [CheckService.cacheClock, CheckService.cacheClock, apart.now]

theorem run? (mine : stage.owns id = true) : only.run? id = service.run? id := by
  rw [CheckService.run?, apart.runs]
  apply find?_filter_of_imp
  intro run _ named
  rw [eq_of_beq named, mine]

/-! ### What is done to both -/

theorem withAgenda {rest : Agenda CheckEvent} (known : ∀ timed ∈ rest, timed ∈ service.agenda) :
    Apart stage { service with agenda := rest } { only with agenda := rest.sift stage.keep? } :=
  { apart with agenda := rfl, fitting := fun timed member => apart.fitting timed (known timed member) }

/-- What cannot be read now cannot be read later either, whether it was swept or not. -/
theorem withClock {now : Nat} (le : service.now ≤ now) :
    Apart stage { service with now } { only with now } :=
  { apart with now := rfl, caches := apart.caches.later le }

theorem clearCache : Apart stage service.clearCache only.clearCache :=
  { apart with caches := apart.caches.clear }

end Apart

theorem Apart.new (stage : Stage σ) {credentials : Credentials}
    (configured : credentials.key? = some stage.key) (lifetime : Measure) :
    Apart stage (.new stage.start credentials lifetime) (.new stage.start credentials lifetime) where
  now := rfl
  servers := .refl _ _ _
  key := configured
  key' := configured
  caches := .empty _ _ _
  flights := rfl
  runs := rfl
  waiters := rfl
  agenda := rfl
  sent := rfl
  answers := rfl
  waiting _ member := nomatch member
  fitting _ member := nomatch member

namespace Respects

theorem comp {mine : Bool} {first then_ : CheckService σ → CheckService σ}
    (earlier : Respects stage mine first) (later : Respects stage mine then_) :
    Respects stage mine fun service => then_ (first service) where
  both about _ _ apart := later.both about (earlier.both about apart)
  one foreign _ _ apart := later.one foreign (earlier.one foreign apart)

theorem nothing {mine : Bool} : Respects stage mine fun service => service :=
  ⟨fun _ _ _ apart => apart, fun _ _ _ apart => apart⟩

theorem byClock {mine : Bool} {act : Nat → CheckService σ → CheckService σ}
    (always : ∀ now, Respects stage mine (act now)) :
    Respects stage mine fun service => act service.now service where
  both about service only apart := by
    rw [apart.now]
    exact (always service.now).both about apart
  one foreign service _ apart := (always service.now).one foreign apart

/-! ### Entries and answers -/

theorem enter (due : Nat) {event : CheckEvent} (fits : stage.Fits event) :
    Respects stage (stage.concerns event) (·.enter due event) := by
  have fitting {service only : CheckService σ} (apart : Apart stage service only) :
      ∀ timed ∈ service.agenda.enter due event, stage.Fits timed.item := by
    intro timed member
    rcases List.mem_append.mp member with known | added
    · exact apart.fitting timed known
    · rw [List.mem_singleton.mp added]
      exact fits
  constructor
  case both =>
    intro about service only apart
    refine { apart with agenda := ?_, fitting := fitting apart }
    rw [CheckService.enter, apart.agenda]
    exact (Agenda.sift_enter_some (Focus.keep?_of_concerns about) _ _).symm
  case one =>
    intro foreign service only apart
    refine { apart with agenda := ?_, fitting := fitting apart }
    rw [apart.agenda]
    exact (Agenda.sift_enter_none (Focus.keep?_of_foreign foreign) _ _).symm

theorem answer (caller : Nat) (result : Except CheckError Checked) :
    Respects stage (stage.ours caller) (·.answer caller result) := by
  constructor
  case both =>
    intro about service only apart
    refine { apart with answers := ?_ }
    simp [CheckService.answer, apart.answers, apart.now, about]
  case one =>
    intro foreign service only apart
    refine { apart with answers := ?_ }
    simp [CheckService.answer, apart.answers, foreign]

/-! ### Runs -/

theorem updateRun {change : Run → Run} (keeps : ∀ run, (change run).id = run.id) (id : RunId) :
    Respects stage (stage.owns id) (·.updateRun id change) := by
  have commutes (runs : List Run) :
      (runs.map fun run => if run.id = id then change run else run).filter (stage.owns ·.id) =
        (runs.filter (stage.owns ·.id)).map fun run => if run.id = id then change run else run := by
    rw [List.filter_map]
    congr 2
    funext run
    simp only [Function.comp]
    split
    · rw [keeps]
    · rfl
  constructor
  case both =>
    intro about service only apart
    refine { apart with runs := ?_ }
    rw [CheckService.updateRun, apart.runs]
    exact (commutes _).symm
  case one =>
    intro foreign service only apart
    refine { apart with runs := ?_ }
    rw [apart.runs, CheckService.updateRun, commutes]
    -- None of the runs of the domain is the one that changes.
    have unchanged : ∀ run ∈ service.runs.filter (stage.owns ·.id),
        (if run.id = id then change run else run) = run := by
      intro run member
      have owned : stage.owns run.id = true := (List.mem_filter.mp member).2
      apply if_neg
      rintro rfl
      cases foreign.symm.trans owned
    exact ((List.map_congr_left unchanged).trans (List.map_id' _)).symm

/-- A report is stored under its domain, and sweeping the cache drops nothing that could be read. -/
theorem store {outcome : Except Crash Report}
    (told : ∀ report, outcome = .ok report → report.domain = id.domain) :
    Respects stage (stage.owns id) (·.store outcome) := by
  cases outcome with
  | error crash => exact nothing
  | ok report =>
    have domain := told report rfl
    by_cases clean : report.isClean
    · simp only [CheckService.store, clean, if_true, domain]
      constructor
      case both =>
        intro about service only apart
        rw [apart.cacheClock, Focus.owns_iff.mp about]
        exact { apart with caches := apart.caches.set_both report }
      case one =>
        intro foreign service only apart
        have elsewhere : id.domain ≠ stage.domain := beq_eq_false_iff_ne.mp foreign
        exact { apart with caches := apart.caches.set_one elsewhere report }
    · simp only [CheckService.store, clean]
      exact nothing

/-- Who waits for a run of the domain is answered by both services. -/
theorem answerWaiters (id : RunId) (outcome : Except Crash Report) :
    Respects stage (stage.owns id) (·.answerWaiters id outcome) := by
  have waiting {service only : CheckService σ} (apart : Apart stage service only) :
      ∀ waiter ∈ service.waiters.filter (·.run != id),
        stage.ours waiter.caller = stage.owns waiter.run :=
    fun waiter member => apart.waiting waiter (List.mem_filter.mp member).1
  have fitting {service only : CheckService σ} (apart : Apart stage service only) :
      ∀ timed ∈ (service.answerWaiters id outcome).agenda, stage.Fits timed.item :=
    fun timed member => apart.fitting timed (List.mem_filter.mp member).1
  have known {service only : CheckService σ} (apart : Apart stage service only) :
      ∀ waiter ∈ service.waiters.filter (·.run == id), stage.ours waiter.caller = stage.owns id := by
    intro waiter member
    obtain ⟨waits, run⟩ := List.mem_filter.mp member
    rw [apart.waiting waiter waits, eq_of_beq run]
  constructor
  case both =>
    intro about service only apart
    -- All who wait for the run ask for the domain.
    have same : only.waiters.filter (·.run == id) = service.waiters.filter (·.run == id) := by
      rw [apart.waiters]
      apply filter_filter_of_imp
      intro waiter waits run
      rw [known apart waiter (List.mem_filter.mpr ⟨waits, run⟩), about]
    refine { apart with
      waiters := ?_, agenda := ?_, answers := ?_, waiting := waiting apart, fitting := fitting apart }
    · simp only [CheckService.answerWaiters, apart.waiters]
      exact List.filter_comm _ _ _
    · simp only [CheckService.answerWaiters, same, apart.agenda]
      exact (Focus.sift_drop _ _).symm
    · simp only [CheckService.answerWaiters, same, apart.answers, apart.now, List.filter_append]
      congr 1
      refine (List.filter_eq_self.mpr ?_).symm
      simp only [List.map_map, List.mem_map]
      rintro _ ⟨waiter, member, rfl⟩
      exact (known apart waiter member).trans about
  case one =>
    intro foreign service only apart
    -- Nobody who waits for the run asks for the domain.
    refine { apart with
      waiters := ?_, agenda := ?_, answers := ?_, waiting := waiting apart, fitting := fitting apart }
    · rw [apart.waiters]
      refine (filter_filter_of_imp ?_).symm
      intro waiter waits ours
      rw [bne_iff_ne]
      rintro rfl
      rw [apart.waiting waiter waits, foreign] at ours
      cases ours
    · simp only [CheckService.answerWaiters]
      rw [apart.agenda]
      refine (Focus.sift_drop_others ?_ _).symm
      intro caller member
      obtain ⟨waiter, waits, rfl⟩ := List.mem_map.mp member
      exact (known apart waiter waits).trans foreign
    · simp only [CheckService.answerWaiters, List.filter_append, apart.answers]
      symm
      rw [List.append_right_eq_self, List.filter_eq_nil_iff]
      simp only [List.map_map, List.mem_map]
      rintro _ ⟨waiter, member, rfl⟩
      simp [known apart waiter member, foreign]

/-! ### The ends of runs -/

theorem finish {outcome : Except Crash Report}
    (told : ∀ report, outcome = .ok report → report.domain = id.domain) :
    Respects stage (stage.owns id) (·.finish id outcome) := by
  have keeps : ∀ run : Run, ({ run with outcome := some outcome } : Run).id = run.id := fun _ => rfl
  have fits : stage.Fits (.forget id) := trivial
  have ends (now : Nat) := ((store told).comp (answerWaiters id outcome)).comp (enter now fits)
  exact (updateRun keeps id).comp (byClock ends)

theorem conclude (id : RunId) : Respects stage (stage.owns id) (·.conclude id) := by
  -- What a run ends with is about its domain.
  have told {service : CheckService σ} {run : Run} {outcome : Except Crash Report}
      (found : service.run? id = some run) (complete : run.result? = some outcome) :
      ∀ report, outcome = .ok report → report.domain = id.domain := by
    rintro report rfl
    have named := List.find?_some found
    rw [← eq_of_beq named]
    exact (Run.of_result? complete).1
  constructor
  case both =>
    intro about service only apart
    unfold CheckService.conclude
    rw [apart.run? about]
    cases found : service.run? id with
    | none => exact apart
    | some run =>
      cases ended : run.outcome with
      | some outcome => simpa [ended] using apart
      | none =>
        cases complete : run.result? with
        | none => simpa [ended, complete] using apart
        | some outcome =>
          simpa [ended, complete] using (finish (told found complete)).both about apart
  case one =>
    intro foreign service only apart
    have ended := concluded service id
    generalize service.conclude id = after at ended ⊢
    cases ended with
    | left => exact apart
    | finished found unfinished complete => exact (finish (told found complete)).one foreign apart

theorem settle {change : Run → Run} (keeps : ∀ run, (change run).id = run.id) (id : RunId) :
    Respects stage (stage.owns id) (·.settle id change) :=
  (updateRun keeps id).comp (conclude id)

/-! ### Errands and the desk -/

theorem send {errand : Errand} (check : ∀ user password, errand ≠ .logIn user password) (id : RunId)
    (attempt : Nat) : Respects stage (stage.owns id) (·.send stage.sites id errand attempt) := by
  have subject := stage.sites.subject_plan id.domain check
  have ends (due : Nat) (outcome : Outcome) :
      Respects stage (stage.owns id) (·.enter due (.ended id errand attempt outcome)) :=
    enter due (show stage.Fits (.ended id errand attempt outcome) from check)
  -- Whatever is sent is about the domain of the run.
  have mentions {server : σ} {now : Nat} {sent : Sent}
      (member : sent ∈ ((stage.sites.plan id.domain errand).attempt stage.sites.serve server now).sent) :
      sent.request.isAbout stage.domain = stage.owns id := by
    rw [Request.isAbout, Plan.subject_of_sent member, subject]
    rfl
  constructor
  case both =>
    intro about service only apart
    have cut : only.isCutOff id errand = service.isCutOff id errand := by
      rw [isCutOff, isCutOff, apart.run? about]
    unfold CheckService.send
    rw [cut]
    by_cases off : service.isCutOff id errand = true
    · rw [if_pos off, if_pos off]
      exact (byClock fun now => ends now _).both about apart
    · rw [if_neg off, if_neg off]
      have domain : id.domain = stage.domain := Focus.owns_iff.mp about
      obtain ⟨sent, endsAt, outcome, twins⟩ :=
        apart.servers.attempt stage.separate (subject.trans (congrArg some domain)) service.now
      refine { (ends _ _).both about apart with servers := ?_, agenda := ?_, sent := ?_ }
      · dsimp only
        rw [apart.now]
        exact twins
      · dsimp only
        rw [apart.now, endsAt, outcome]
        exact ((ends _ _).both about apart).agenda
      · dsimp only
        rw [apart.now, sent, apart.sent, List.filter_append]
        congr 1
        refine (List.filter_eq_self.mpr ?_).symm
        exact fun _ member => (mentions member).trans about
  case one =>
    intro foreign service only apart
    have elsewhere : id.domain ≠ stage.domain := beq_eq_false_iff_ne.mp foreign
    unfold CheckService.send
    by_cases off : service.isCutOff id errand = true
    · rw [if_pos off]
      exact (ends _ _).one foreign apart
    · rw [if_neg off]
      have twins := apart.servers.attempt_other subject elsewhere service.now
      refine { (ends _ _).one foreign apart with servers := twins, sent := ?_ }
      dsimp only
      rw [apart.sent, List.filter_append]
      symm
      rw [List.append_right_eq_self, List.filter_eq_nil_iff]
      intro sent member
      rw [mentions member, foreign]
      exact Bool.false_ne_true

theorem follow {direction : Direction} (keyed : ∀ user password, direction ≠ .logIn user password)
    (id : RunId) : Respects stage (stage.owns id) (·.follow stage.sites id direction) := by
  cases direction with
  | wait => exact nothing
  | logIn user password => exact absurd rfl (keyed user password)
  | take grant =>
    unfold CheckService.follow
    dsimp only
    split
    next token _ =>
      have check : ∀ user password, Errand.lookup token ≠ .logIn user password := by simp
      exact send check id 1
    next => exact settle (Run.id_withReputation _) id

theorem dropToken {mine : Bool} : Respects stage mine CheckService.dropToken where
  both _ _ _ apart := { apart with }
  one _ _ _ apart := { apart with }

/-- A token that is rejected costs nothing, since the key is not dropped. -/
theorem lookupEnded (id : RunId) (result : Except CallError Response) :
    Respects stage (stage.owns id) (·.lookupEnded id result) := by
  unfold CheckService.lookupEnded
  split
  · exact dropToken.comp (settle (Run.id_withReputation _) id)
  · exact settle (Run.id_withReputation _) id

theorem attemptEnded {errand : Errand} (check : ∀ user password, errand ≠ .logIn user password)
    (id : RunId) (attempt : Nat) (outcome : Outcome) :
    Respects stage (stage.owns id) (·.attemptEnded stage.sites id errand attempt outcome) := by
  unfold CheckService.attemptEnded
  split
  next wait _ =>
    have again : stage.Fits (.send id errand (attempt + 1)) := check
    exact byClock fun now => enter (now + wait) again
  next =>
    cases errand with
    | logIn user password => exact absurd rfl (check user password)
    | lookup token => exact lookupEnded id _
    | availability => exact settle (takesIn_availability _).id id
    | snapshots => exact settle (takesIn_snapshots _).id id

/-! ### Callers -/

theorem launch (id : RunId) : Respects stage (stage.owns id) (·.launch stage.sites id) := by
  have boarded : Respects stage (stage.owns id) fun service =>
      { service with runs := service.runs ++ [Run.new id], flights := service.flights.board id } := by
    constructor
    case both =>
      intro about service only apart
      refine { apart with flights := ?_, runs := ?_ }
      · simp [Flights.board, apart.flights, about]
      · simp [apart.runs, Run.new, about]
    case one =>
      intro foreign service only apart
      refine { apart with flights := ?_, runs := ?_ }
      · simp [Flights.board, apart.flights, foreign]
      · simp [apart.runs, Run.new, foreign]
  -- With a fixed key the desk sends the run straight to its lookup.
  let direction := Direction.take ⟨some stage.key, .apiKey⟩
  have keyed : ∀ user password, direction ≠ .logIn user password := by simp [direction]
  have availability : ∀ user password, Errand.availability ≠ .logIn user password := by simp
  have snapshots : ∀ user password, Errand.snapshots ≠ .logIn user password := by simp
  have sends := (boarded.comp (follow keyed id)).comp ((send availability id 1).comp (send snapshots id 1))
  constructor
  case both =>
    intro about service only apart
    have sent := sends.both about apart
    unfold CheckService.launch
    rw [Desk.ask_of_key apart.key, Desk.ask_of_key apart.key']
    exact sent
  case one =>
    intro foreign service only apart
    have sent := sends.one foreign apart
    unfold CheckService.launch
    rw [Desk.ask_of_key apart.key]
    exact sent

theorem wait {caller : Nat} (known : stage.ours caller = stage.owns id) :
    Respects stage (stage.owns id) fun service =>
      { service with waiters := service.waiters ++ [⟨caller, id⟩] } := by
  have waiting {service only : CheckService σ} (apart : Apart stage service only) :
      ∀ waiter ∈ service.waiters ++ [⟨caller, id⟩], stage.ours waiter.caller = stage.owns waiter.run := by
    intro waiter member
    rcases List.mem_append.mp member with waits | added
    · exact apart.waiting waiter waits
    · rw [List.mem_singleton.mp added]
      exact known
  constructor
  case both =>
    intro about service only apart
    refine { apart with waiters := ?_, waiting := waiting apart }
    simp [apart.waiters, known, about]
  case one =>
    intro foreign service only apart
    refine { apart with waiters := ?_, waiting := waiting apart }
    simp [apart.waiters, known, foreign]

theorem join {caller : Nat} (known : stage.ours caller = stage.owns id) (patience : Option Nat) :
    Respects stage (stage.owns id) (·.join caller id patience) := by
  have fits : stage.Fits (.giveUp caller) := trivial
  have gives (due : Nat) : Respects stage (stage.owns id) (·.enter due (.giveUp caller)) := by
    rw [← known]
    exact enter due fits
  have answers (outcome : Except Crash Report) :
      Respects stage (stage.owns id) (·.answer caller (shared outcome)) := by
    rw [← known]
    exact answer caller _
  -- While the run goes on the caller waits, and does not give up without having said when.
  obtain ⟨act, waits, goesOn⟩ : ∃ act, Respects stage (stage.owns id) act ∧
      ∀ service, (service.run? id).bind Run.outcome = none →
        service.join caller id patience = act service := by
    cases patience with
    | none => exact ⟨_, wait known, fun service open_ => by simp only [CheckService.join, open_]⟩
    | some milliseconds =>
      have impatient := (wait known).comp (byClock fun now => gives (now + milliseconds))
      exact ⟨_, impatient, fun service open_ => by simp only [CheckService.join, open_]⟩
  constructor
  case both =>
    intro about service only apart
    have same := apart.run? about
    cases ended : (service.run? id).bind Run.outcome with
    | some outcome =>
      simp only [CheckService.join, same, ended]
      exact (answers outcome).both about apart
    | none =>
      have ended' : (only.run? id).bind Run.outcome = none := by rw [same, ended]
      rw [goesOn service ended, goesOn only ended']
      exact waits.both about apart
  case one =>
    intro foreign service only apart
    cases ended : (service.run? id).bind Run.outcome with
    | some outcome =>
      simp only [CheckService.join, ended]
      exact (answers outcome).one foreign apart
    | none =>
      rw [goesOn service ended]
      exact waits.one foreign apart

theorem share {caller : Nat} {host : String} (known : stage.ours caller = (host == stage.domain))
    (patience : Option Nat) :
    Respects stage (host == stage.domain) (·.share stage.sites caller host patience) := by
  -- The run that is shared, whether on record or new, is one of the host.
  have joins {id : RunId} (named : id.domain = host) :
      Respects stage (host == stage.domain) (·.join caller id patience) := by
    subst named
    exact join known patience
  have launches {id : RunId} (named : id.domain = host) :
      Respects stage (host == stage.domain) fun service =>
        (service.launch stage.sites id).join caller id patience := by
    subst named
    exact (launch id).comp (join known patience)
  constructor
  case both =>
    intro about service only apart
    have owned {id : RunId} (named : (id.domain == host) = true) : stage.owns id = true := by
      rw [Focus.owns, eq_of_beq named, about]
    have onRecord : only.flights.run? host = service.flights.run? host := by
      rw [apart.flights]
      exact find?_filter_of_imp fun _ _ => owned
    have next : only.nextRun host = service.nextRun host := by
      rw [CheckService.nextRun, apart.runs, filter_filter_of_imp fun _ _ => owned]
      rfl
    have named : (service.nextRun host).domain = host := rfl
    unfold CheckService.share
    rw [onRecord, next]
    cases found : service.flights.run? host with
    | some id => exact (joins (Flights.mem_of_run? found).2).both about apart
    | none => exact (launches named).both about apart
  case one =>
    intro foreign service only apart
    have named : (service.nextRun host).domain = host := rfl
    unfold CheckService.share
    cases found : service.flights.run? host with
    | some id => exact (joins (Flights.mem_of_run? found).2).one foreign apart
    | none => exact (launches named).one foreign apart

theorem attend {caller : Nat} {asked : Value} (known : stage.ours caller = asksFor stage.domain asked)
    (patience : Option Nat) :
    Respects stage (stage.ours caller) (·.attend stage.sites caller asked patience) := by
  unfold CheckService.attend
  cases reads : Host.ofValue asked with
  | error invalid => exact answer caller _
  | ok host =>
    have asks : stage.ours caller = (host == stage.domain) := by rw [known, asksFor, reads]
    have shares := share asks patience
    rw [← asks] at shares
    constructor
    case both =>
      intro about service only apart
      have domain : host = stage.domain := eq_of_beq (asks.symm.trans about)
      -- A reading may drop the report that is kept, from both caches alike.
      have looked : Apart stage
          { service with cache := (service.cache.get service.cacheClock host).2 }
          { only with cache := (only.cache.get only.cacheClock host).2 } := by
        rw [apart.cacheClock]
        exact { apart with caches := apart.caches.get_both host }
      have read : (only.cache.get only.cacheClock host).1 = (service.cache.get service.cacheClock host).1 := by
        rw [apart.cacheClock, domain]
        exact apart.caches.read
      dsimp only
      rw [read]
      cases (service.cache.get service.cacheClock host).1 with
      | some report => exact (answer caller _).both about looked
      | none => exact shares.both about looked
    case one =>
      intro foreign service only apart
      have looked : Apart stage { service with cache := (service.cache.get service.cacheClock host).2 } only :=
        { apart with caches := apart.caches.get_one host }
      dsimp only
      cases (service.cache.get service.cacheClock host).1 with
      | some report => exact (answer caller _).one foreign looked
      | none => exact shares.one foreign looked

theorem arrive {caller : Nat} {asked : Value} (known : stage.ours caller = asksFor stage.domain asked)
    (patience : Option Nat) :
    Respects stage (stage.ours caller) (·.arrive stage.sites caller asked patience) := by
  unfold CheckService.arrive
  split
  · exact answer caller _
  · exact attend known patience

theorem giveUp (caller : Nat) : Respects stage (stage.ours caller) (·.giveUp caller) := by
  have leaves : Respects stage (stage.ours caller) fun service =>
      { service with waiters := service.waiters.filter (·.caller != caller) } := by
    have waiting {service only : CheckService σ} (apart : Apart stage service only) :
        ∀ waiter ∈ service.waiters.filter (·.caller != caller),
          stage.ours waiter.caller = stage.owns waiter.run :=
      fun waiter member => apart.waiting waiter (List.mem_filter.mp member).1
    constructor
    case both =>
      intro about service only apart
      refine { apart with waiters := ?_, waiting := waiting apart }
      rw [apart.waiters]
      exact List.filter_comm _ _ _
    case one =>
      intro foreign service only apart
      refine { apart with waiters := ?_, waiting := waiting apart }
      rw [apart.waiters]
      refine (filter_filter_of_imp ?_).symm
      intro waiter _ ours
      rw [bne_iff_ne]
      rintro rfl
      cases foreign.symm.trans ours
  exact leaves.comp (answer caller _)

theorem forget (id : RunId) : Respects stage (stage.owns id) fun service =>
    { service with flights := service.flights.forget id } := by
  constructor
  case both =>
    intro about service only apart
    refine { apart with flights := ?_ }
    rw [apart.flights]
    exact List.filter_comm _ _ _
  case one =>
    intro foreign service only apart
    refine { apart with flights := ?_ }
    rw [apart.flights]
    refine (filter_filter_of_imp ?_).symm
    intro other _ owned
    rw [decide_eq_true_eq]
    rintro rfl
    cases foreign.symm.trans owned

/-- An event of the domain happens to both, any other one to the one alone. -/
theorem step {event : CheckEvent} (fits : stage.Fits event) :
    Respects stage (stage.concerns event) (·.step stage.sites event) := by
  cases event with
  | arrive caller asked patience => exact arrive fits patience
  | giveUp caller => exact giveUp caller
  | send id errand attempt => exact send fits id attempt
  | ended id errand attempt outcome => exact attemptEnded fits id attempt outcome
  | forget id => exact forget id

end Respects

end CheckService

end DomainScout
