import DomainScout.Proofs.Access.Desk
import DomainScout.Proofs.Check.Reach
import DomainScout.Proofs.Check.SingleFlight
import DomainScout.Proofs.Remote.Attempt

/-!
# Runs that nothing breaks

A run breaks down only by a crash that it takes in. Where remote services are civil, no attempt for
a host brings one, whatever else the service does, so the runs of the host stay whole.

Main statement: `Smooth.history`.
-/
namespace DomainScout

open Remote

theorem toOption_eq_some {ε α : Type} {result : Except ε α} {a : α} :
    result.toOption = some a ↔ result = .ok a := by
  cases result with
  | error e => exact ⟨nofun, nofun⟩
  | ok b => exact ⟨fun same => congrArg Except.ok (Option.some.inj same), fun same => congrArg Except.toOption same⟩

/-- The data of a login gives a token at any moment, and it can be sent. -/
structure Token.Usable (data : Fields) : Prop where
  expires : ∃ seconds moment, Token.expirySeconds data = .ok seconds ∧
    Value.truncated (seconds.scale 1000) = .ok moment
  text : ∀ v, Value.lookup? "token" data = some v → Plan.sendable v.display = true

theorem Token.usable_iff {data : Fields} : Token.Usable data ↔
    ((Token.expirySeconds data).toOption.bind fun seconds =>
      (Value.truncated (seconds.scale 1000)).toOption).isSome = true ∧
    ∀ v ∈ Value.lookup? "token" data, Plan.sendable v.display = true := by
  simp only [Option.isSome_iff_exists, Option.bind_eq_some_iff, toOption_eq_some, Option.mem_def]
  constructor
  · rintro ⟨⟨seconds, moment, read, whole⟩, text⟩
    exact ⟨⟨moment, seconds, read, whole⟩, text⟩
  · rintro ⟨⟨moment, seconds, read, whole⟩, text⟩
    exact ⟨⟨seconds, moment, read, whole⟩, text⟩

instance (data : Fields) : Decidable (Token.Usable data) := decidable_of_iff' _ Token.usable_iff

/-- Remote services that break nothing: every request ends by an answer or by a failure, and every
login that gives a token gives a usable one. -/
structure CheckSites.Civil {σ : Type} (sites : CheckSites σ) : Prop where
  ends : ∀ state request crash, (sites.serve state request).1.ending ≠ .crashed crash
  logins : ∀ state request response data, request.method = "POST" →
    (sites.serve state request).1.ending = .answered response →
    Reputation.loginData response = .ok data → Token.Usable data

theorem Remote.Reputation.token_of_loginData {response : Response} {data : Fields}
    (answered : loginData response = .ok data) : ∃ v, Value.lookup? "token" data = some v := by
  unfold loginData at answered
  split at answered
  · split at answered
    next fields _ =>
      split at answered
      next filled =>
        cases answered
        cases given : Value.lookup? "token" data with
        | some v => exact ⟨v, rfl⟩
        | none =>
          rw [given] at filled
          cases filled
      · cases answered
    · cases answered
  · cases answered

theorem Token.ofLogin_of_usable {response : Response} {data : Fields}
    (answered : Reputation.loginData response = .ok data) (usable : Token.Usable data) (now : Int) :
    ∃ token, Token.ofLogin data now = .ok token ∧ Plan.sendable token.text = true := by
  obtain ⟨seconds, moment, read, whole⟩ := usable.expires
  obtain ⟨v, given⟩ := Reputation.token_of_loginData answered
  have expires : ∃ moment, Token.expiry data now = .ok moment := by
    unfold Token.expiry
    rw [read]
    simp only [bind, Except.bind]
    split
    · exact ⟨_, rfl⟩
    · rw [whole]
      exact ⟨_, rfl⟩
  obtain ⟨expiresAt, expires⟩ := expires
  refine ⟨⟨v.display, expiresAt⟩, ?_, usable.text v given⟩
  unfold Token.ofLogin
  rw [expires, given]
  rfl

/-- An errand is about a host: it belongs to a run of it, or logs in for whoever needs a token. -/
def Errand.Concerns (errand : Errand) (id : RunId) (host : String) : Prop :=
  id.domain = host ∨ ∃ user password, errand = .logIn user password

/-- An errand does not end in a crash, and no login with unusable data. -/
def Errand.Bears (errand : Errand) (outcome : Outcome) : Prop :=
  (∀ crash, outcome ≠ .ended (.crashed crash)) ∧
    ∀ user password response data, errand = .logIn user password →
      outcome = .ended (.answered response) → Reputation.loginData response = .ok data →
        Token.Usable data

/-- Nothing about an event can break a run of a host, and only some callers come or give up by it. -/
def CheckEvent.Smooth (host : String) (others : Nat → Prop) : CheckEvent → Prop
  | .arrive caller _ _ | .giveUp caller => others caller
  | .send _ errand _ => errand.Sendable
  | .ended id errand _ outcome =>
    errand.Sendable ∧ (errand.Concerns id host → errand.Bears outcome)
  | .forget _ => True

/-- Only some callers come or give up by an event. -/
def CheckEvent.Spares (others : Nat → Prop) : CheckEvent → Prop
  | .arrive caller _ _ | .giveUp caller => others caller
  | .send _ _ _ | .ended _ _ _ _ | .forget _ => True

theorem CheckEvent.Smooth.of_spares {event : CheckEvent} {host : String} {all others : Nat → Prop}
    (smooth : event.Smooth host all) (spares : event.Spares others) : event.Smooth host others := by
  cases event with
  | arrive | giveUp => exact spares
  | send | ended | forget => exact smooth

/-- A run has taken in no crash. -/
structure Run.Unbroken (run : Run) : Prop where
  reputation : ∀ crash, run.reputation ≠ some (.error crash)
  archive : run.archiveCrash = none
  outcome : ∀ crash, run.outcome ≠ some (.error crash)

theorem Run.Unbroken.result? {run : Run} (unbroken : run.Unbroken) (crash : Crash) :
    run.result? ≠ some (.error crash) := by
  unfold Run.result?
  rw [unbroken.archive]
  split
  next found => exact absurd found (unbroken.reputation _)
  next absent _ => cases absent
  next =>
    split <;> exact nofun

/-! ### What ends without a crash -/

theorem Remote.Plan.result_ne_crash {plan : Plan} {outcome : Outcome}
    (unbroken : ∀ crash, outcome ≠ .ended (.crashed crash)) (crash : Crash) :
    plan.result outcome ≠ .error (.crash crash) := by
  cases outcome with
  | overdue => exact nofun
  | ended ending =>
    cases ending with
    | answered | failed => exact nofun
    | crashed other => exact absurd rfl (unbroken other)

theorem ReputationReport.ofResult_ne_error {result : Except CallError Response}
    (unbroken : ∀ crash, result ≠ .error (.crash crash)) (crash : Crash) :
    ofResult result ≠ .error crash := by
  unfold ofResult
  split
  · exact nofun
  · exact nofun
  next other => exact absurd rfl (unbroken other)

theorem ArchiveReport.partOf_ne_error {α : Type} {read : Response → Option α}
    {result : Except CallError Response} (unbroken : ∀ crash, result ≠ .error (.crash crash))
    (crash : Crash) : partOf read result ≠ .error crash := by
  unfold partOf
  split
  · exact nofun
  · exact nofun
  next other => exact absurd rfl (unbroken other)

theorem Run.Unbroken.withAvailability {run : Run} (unbroken : run.Unbroken)
    {result : Except CallError Response} (sound : ∀ crash, result ≠ .error (.crash crash)) :
    (run.withAvailability result).Unbroken := by
  unfold Run.withAvailability
  split
  · exact ⟨unbroken.reputation, unbroken.archive, unbroken.outcome⟩
  next crash broken => exact absurd broken (ArchiveReport.partOf_ne_error sound crash)

theorem Run.Unbroken.withSnapshots {run : Run} (unbroken : run.Unbroken)
    {result : Except CallError Response} (sound : ∀ crash, result ≠ .error (.crash crash)) :
    (run.withSnapshots result).Unbroken := by
  unfold Run.withSnapshots
  split
  · exact ⟨unbroken.reputation, unbroken.archive, unbroken.outcome⟩
  next crash broken => exact absurd broken (ArchiveReport.partOf_ne_error sound crash)

/-- What a login may come to: a token that can be sent, or a problem. -/
structure Sound (token : Except CallError Token) : Prop where
  sendable : ∀ gained, token = .ok gained → Plan.sendable gained.text = true
  unbroken : ∀ crash, token ≠ .error (.crash crash)

theorem sound_problem (problem : Problem) : Sound (.error (.problem problem)) := ⟨nofun, nofun⟩

theorem sound_tokenOf {user password : String} {outcome : Outcome}
    (bears : (Errand.logIn user password).Bears outcome) (plan : Plan) (clock : Int) :
    Sound (CheckService.tokenOf clock (Reputation.loginResult plan outcome)) := by
  cases outcome with
  | overdue => exact sound_problem _
  | ended ending =>
    cases ending with
    | crashed crash => exact absurd rfl (bears.1 crash)
    | failed fault message => exact sound_problem _
    | answered response =>
      cases answered : Reputation.loginData response with
      | error problem =>
        have same : Reputation.loginResult plan (.ended (.answered response)) =
            .error (.problem problem) := congrArg (Except.mapError CallError.problem) answered
        rw [same]
        exact sound_problem problem
      | ok data =>
        have same : Reputation.loginResult plan (.ended (.answered response)) = .ok data :=
          congrArg (Except.mapError CallError.problem) answered
        have usable := bears.2 user password response data rfl rfl answered
        obtain ⟨token, made, sendable⟩ := Token.ofLogin_of_usable answered usable clock
        have whole : CheckService.tokenOf clock (.ok data) = .ok token :=
          congrArg (Except.mapError CallError.crash) made
        rw [same, whole]
        refine ⟨?_, nofun⟩
        intro gained given
        cases given
        exact sendable

namespace CheckService

variable {σ : Type} {sites : CheckSites σ} {service after : CheckService σ} {id : RunId}
  {host : String} {others : Nat → Prop}

/-- Nothing can break a run of a host, and only some callers may come or give up. -/
structure Smooth (host : String) (others : Nat → Prop) (service : CheckService σ) : Prop where
  events : ∀ timed ∈ service.agenda, timed.item.Smooth host others
  runs : ∀ run ∈ service.runs, run.id.domain = host → run.Unbroken
  desk : service.desk.Holds (Plan.sendable · = true)

/-! ### Attempts -/

/-- A move by which only some callers may ask. -/
def Move.Spares (others : Nat → Prop) : Move → Prop
  | .arrive caller _ _ => others caller
  | .ask _ => ∀ caller, others caller
  | _ => True

/-- Usable sites and civil services do not break what is sent for a host. -/
theorem attempt_bears (usable : sites.Usable) (civil : sites.Civil) (reaches : sites.Reaches host)
    {errand : Errand} (sendable : errand.Sendable) (concerns : errand.Concerns id host) (server : σ)
    (now : Nat) :
    errand.Bears ((sites.plan id.domain errand).attempt sites.serve server now).outcome := by
  -- Logins do not depend on the host, so they are reached for every run.
  have reached : ∃ request, (sites.plan id.domain errand).request = .ok request ∧
      request.url.scheme ≠ "" := by
    rcases concerns with rfl | ⟨user, password, rfl⟩
    · exact reaches errand sendable
    · exact reaches (.logIn user password) sendable
  obtain ⟨request, planned, named⟩ := reached
  have outcome := Plan.outcome_of_attempt planned named (usable.limits _ _) sites.serve server now
  generalize (sites.plan id.domain errand).attempt sites.serve server now = attempt at outcome ⊢
  rcases outcome with overdue | ended
  · rw [overdue]
    exact ⟨nofun, nofun⟩
  · rw [ended]
    refine ⟨?_, ?_⟩
    · intro crash crashed
      exact civil.ends server request crash (Outcome.ended.inj crashed)
    · rintro user password response data rfl answered given
      have post : request.method = "POST" := by
        rw [(Plan.of_request planned).1]
        exact (by decide +kernel : Text.upper "POST" = "POST")
      exact civil.logins server request response data post (Outcome.ended.inj answered) given

namespace Smooth

theorem same (smooth : Smooth host others service) (agenda : after.agenda = service.agenda)
    (runs : after.runs = service.runs) (desk : after.desk = service.desk) :
    Smooth host others after := by
  refine ⟨?_, ?_, ?_⟩
  · rw [agenda]
    exact smooth.events
  · rw [runs]
    exact smooth.runs
  · rw [desk]
    exact smooth.desk

theorem enter (smooth : Smooth host others service) (due : Nat) {event : CheckEvent}
    (entered : event.Smooth host others) : Smooth host others (service.enter due event) := by
  refine ⟨?_, smooth.runs, smooth.desk⟩
  intro timed member
  rcases List.mem_append.mp member with known | added
  · exact smooth.events timed known
  · cases List.mem_singleton.mp added
    exact entered

theorem not_cutOff (smooth : Smooth host others service) {errand : Errand}
    (concerns : errand.Concerns id host) : service.isCutOff id errand = false := by
  rcases concerns with own | ⟨user, password, rfl⟩
  · cases crashed : (service.run? id).bind Run.archiveCrash with
    | none => simp [isCutOff, crashed]
    | some crash =>
      obtain ⟨run, found, broken⟩ := Option.bind_eq_some_iff.mp crashed
      obtain ⟨member, named⟩ := mem_of_run? found
      have unbroken := smooth.runs run member (named ▸ own)
      rw [unbroken.archive] at broken
      cases broken
  · rfl

theorem settle (smooth : Smooth host others service) {change : Run → Run}
    (keeps : ∀ run, (change run).id = run.id)
    (unbroken : id.domain = host → ∀ run, run.Unbroken → (change run).Unbroken) :
    Smooth host others (service.settle id change) := by
  have updated : Smooth host others (service.updateRun id change) := by
    refine ⟨smooth.events, ?_, smooth.desk⟩
    intro run member about
    obtain ⟨earlier, known, rfl⟩ := mem_updateRun.mp member
    by_cases own : earlier.id = id
    · rw [if_pos own] at about ⊢
      rw [keeps] at about
      exact unbroken (own ▸ about) earlier (smooth.runs earlier known about)
    · rw [if_neg own] at about ⊢
      exact smooth.runs earlier known about
  -- A run that ends does so with what it took in, so one that took in no crash ends without.
  have ended := concluded (service.updateRun id change) id
  unfold CheckService.settle
  generalize service.updateRun id change = noted at updated ended
  generalize noted.conclude id = outcome at ended ⊢
  cases ended with
  | left => exact updated
  | @finished run outcome found unfinished complete =>
    obtain ⟨member, named⟩ := mem_of_run? found
    rw [finish_eq]
    refine ⟨?_, ?_, updated.desk⟩
    · intro timed stays
      rcases List.mem_append.mp stays with known | added
      · exact updated.events timed (List.mem_filter.mp known).1
      · cases List.mem_singleton.mp added
        trivial
    · intro later stays about
      obtain ⟨earlier, known, rfl⟩ := mem_updateRun.mp stays
      by_cases own : earlier.id = id
      · rw [if_pos own] at about ⊢
        have before := updated.runs earlier known about
        refine ⟨before.reputation, before.archive, ?_⟩
        intro crash broken
        cases broken
        exact (updated.runs run member (named ▸ own ▸ about)).result? crash complete
      · rw [if_neg own] at about ⊢
        exact updated.runs earlier known about

theorem settle_reputation (smooth : Smooth host others service)
    {report : Except Crash ReputationReport}
    (sound : id.domain = host → ∀ crash, report ≠ .error crash) :
    Smooth host others (service.settle id (·.withReputation report)) := by
  refine smooth.settle (fun _ => rfl) ?_
  intro own run unbroken
  refine ⟨?_, unbroken.archive, unbroken.outcome⟩
  intro crash taken
  exact sound own crash (Option.some.inj taken)

theorem dropToken (smooth : Smooth host others service) : Smooth host others service.dropToken :=
  ⟨smooth.events, smooth.runs, smooth.desk.key, nofun⟩

section Functions

variable (usable : sites.Usable) (civil : sites.Civil) (reaches : sites.Reaches host)

include usable civil reaches

theorem send (smooth : Smooth host others service) {errand : Errand} (sendable : errand.Sendable)
    (attempt : Nat) : Smooth host others (service.send sites id errand attempt) := by
  unfold CheckService.send
  split
  next cut =>
    -- Only runs that took in a crash are cut off, so this is not one of the host.
    refine smooth.enter _ ⟨sendable, ?_⟩
    intro concerns
    rw [smooth.not_cutOff concerns] at cut
    cases cut
  · let started := (sites.plan id.domain errand).attempt sites.serve service.server service.now
    let served : CheckService σ :=
      { service with server := started.server, sent := service.sent ++ started.sent }
    have smooth' : Smooth host others served := smooth.same rfl rfl rfl
    exact smooth'.enter started.endsAt
      ⟨sendable, fun concerns => attempt_bears usable civil reaches sendable concerns _ _⟩

theorem follow (smooth : Smooth host others service) {direction : Direction}
    (gives : Desk.Gives (Plan.sendable · = true) direction) :
    Smooth host others (service.follow sites id direction) := by
  cases direction with
  | wait => exact smooth
  | logIn user password => exact @send _ _ _ _ _ _ usable civil reaches smooth (.logIn user password) trivial 1
  | take grant =>
    unfold CheckService.follow
    simp only
    split
    next token held =>
      have handed : grant.token = some token := (Option.filter_eq_some_iff.mp held).1
      exact @send _ _ _ _ _ _ usable civil reaches smooth (.lookup token) (gives token handed) 1
    · exact smooth.settle_reputation fun _ => nofun

theorem followAll (smooth : Smooth host others service) {directions : List (RunId × Direction)}
    (gives : ∀ told ∈ directions, Desk.Gives (Plan.sendable · = true) told.2) :
    Smooth host others (service.followAll sites directions) := by
  induction directions generalizing service with
  | nil => exact smooth
  | cons first rest ih =>
    exact ih (smooth.follow usable civil reaches (gives first List.mem_cons_self))
      fun told member => gives told (List.mem_cons_of_mem _ member)

theorem launch (smooth : Smooth host others service) :
    Smooth host others (service.launch sites id) := by
  obtain ⟨gives, holds⟩ := smooth.desk.ask (service.deskClock sites) id
  have boarded : Smooth host others { service with
      desk := (service.desk.ask (service.deskClock sites) id).2
      runs := service.runs ++ [Run.new id]
      flights := service.flights.board id } := by
    refine ⟨smooth.events, ?_, holds⟩
    intro run member about
    rcases List.mem_append.mp member with known | added
    · exact smooth.runs run known about
    · cases List.mem_singleton.mp added
      exact ⟨nofun, rfl, nofun⟩
  have followed := @follow _ _ _ id _ _ usable civil reaches boarded _ gives
  have asked := @send _ _ _ id _ _ usable civil reaches followed .availability trivial 1
  exact @send _ _ _ id _ _ usable civil reaches asked .snapshots trivial 1

theorem resume (smooth : Smooth host others service) {token : Except CallError Token}
    (sound : Sound token) : Smooth host others (service.resume sites id token) := by
  unfold CheckService.resume
  split
  next gained =>
    refine smooth.follow usable civil reaches ?_
    intro text handed
    cases handed
    exact sound.sendable gained rfl
  · exact smooth.settle_reputation fun _ => nofun
  next crash => exact absurd rfl (sound.unbroken crash)

theorem loginEnded (smooth : Smooth host others service) {token : Except CallError Token}
    (sound : Sound token) : Smooth host others (service.loginEnded sites id token) := by
  have given : ∀ gained, token.toOption = some gained → Plan.sendable gained.text = true := by
    exact fun gained given => sound.sendable gained (toOption_eq_some.mp given)
  obtain ⟨gives, holds⟩ := smooth.desk.loggedIn (service.deskClock sites) given
  have closed : Smooth host others { service with
      desk := (service.desk.loggedIn (service.deskClock sites) token.toOption).2 } :=
    ⟨smooth.events, smooth.runs, holds⟩
  exact (closed.resume usable civil reaches sound).followAll usable civil reaches gives

theorem attemptEnded (smooth : Smooth host others service) {errand : Errand} {attempt : Nat}
    {outcome : Outcome} (sendable : errand.Sendable)
    (bears : errand.Concerns id host → errand.Bears outcome) :
    Smooth host others (service.attemptEnded sites id errand attempt outcome) := by
  unfold CheckService.attemptEnded
  split
  · exact smooth.enter _ sendable
  have unbroken : id.domain = host → ∀ crash,
      (sites.plan id.domain errand).result outcome ≠ .error (.crash crash) :=
    fun own => Plan.result_ne_crash (bears (.inl own)).1
  cases errand with
  | logIn user password =>
    exact smooth.loginEnded usable civil reaches (sound_tokenOf (bears (.inr ⟨user, password, rfl⟩)) _ _)
  | lookup token =>
    have sound := fun own => ReputationReport.ofResult_ne_error (unbroken own)
    unfold errandEnded lookupEnded
    simp only
    split
    · exact smooth.dropToken.settle_reputation sound
    · exact smooth.settle_reputation sound
  | availability =>
    exact smooth.settle (takesIn_availability _).id fun own run before => before.withAvailability (unbroken own)
  | snapshots =>
    exact smooth.settle (takesIn_snapshots _).id fun own run before => before.withSnapshots (unbroken own)

omit usable civil reaches in
theorem join (smooth : Smooth host others service) {caller : Nat} {patience : Option Nat}
    (stays : patience = none ∨ others caller) :
    Smooth host others (service.join caller id patience) := by
  unfold CheckService.join
  split
  · exact smooth.same rfl rfl rfl
  · cases patience with
    | none => exact smooth.same rfl rfl rfl
    | some milliseconds =>
      have waits : Smooth host others { service with waiters := service.waiters ++ [⟨caller, id⟩] } :=
        smooth.same rfl rfl rfl
      exact waits.enter (service.now + milliseconds) (stays.resolve_left nofun)

theorem arrive (smooth : Smooth host others service) {caller : Nat} {domain : Value}
    {patience : Option Nat} (stays : patience = none ∨ others caller) :
    Smooth host others (service.arrive sites caller domain patience) := by
  unfold CheckService.arrive
  split
  · exact smooth.same rfl rfl rfl
  · unfold attend
    split
    · exact smooth.same rfl rfl rfl
    next name _ =>
      simp only
      have looked : Smooth host others
          { service with cache := (service.cache.get service.cacheClock name).2 } :=
        smooth.same rfl rfl rfl
      split
      · exact looked.same rfl rfl rfl
      · unfold share
        split
        · exact looked.join stays
        · exact (looked.launch usable civil reaches).join stays

theorem step (smooth : Smooth host others service) {event : CheckEvent}
    (happens : event.Smooth host others) : Smooth host others (service.step sites event) := by
  cases event with
  | arrive caller domain patience => exact smooth.arrive usable civil reaches (.inr happens)
  | giveUp caller => exact smooth.same rfl rfl rfl
  | send id errand attempt => exact smooth.send usable civil reaches happens attempt
  | ended id errand attempt outcome =>
    exact smooth.attemptEnded usable civil reaches happens.1 happens.2
  | forget id => exact smooth.same rfl rfl rfl

theorem perform (smooth : Smooth host others service) {move : Move} (spares : move.Spares others) :
    Smooth host others (service.perform sites move) := by
  cases move with
  | arrive caller domain patience => exact smooth.arrive usable civil reaches (.inr spares)
  | advance | clearCache => exact smooth.same rfl rfl rfl
  | dropToken => exact smooth.dropToken
  | ask inquiries =>
    refine ⟨?_, smooth.runs, smooth.desk⟩
    intro timed member
    rcases mem_agenda_ask member with known | ⟨caller, domain, patience, asks⟩
    · exact smooth.events timed known
    · rw [asks]
      exact spares caller
  | event place =>
    change Smooth host others (service.happen sites place)
    unfold happen
    split
    · exact smooth
    next timed here =>
      have taken : Smooth host others { service with agenda := service.agenda.eraseIdx place } :=
        ⟨fun other member => smooth.events other (List.mem_of_mem_eraseIdx member), smooth.runs, smooth.desk⟩
      exact taken.step usable civil reaches (smooth.events timed (List.mem_of_getElem? here))

theorem history (smooth : Smooth host others service) {moves : List Move}
    (spares : ∀ move ∈ moves, move.Spares others) :
    Smooth host others (service.history sites moves) := by
  induction moves generalizing service with
  | nil => exact smooth
  | cons move moves ih =>
    exact ih (smooth.perform usable civil reaches (spares move List.mem_cons_self))
      fun later member => spares later (List.mem_cons_of_mem _ member)

/-- Only those give up who may. -/
theorem not_happened (smooth : Smooth host others service) {caller : Nat} (stays : ¬ others caller)
    {moves : List Move} (spares : ∀ move ∈ moves, move.Spares others) :
    .giveUp caller ∉ service.happened sites moves := by
  induction moves generalizing service with
  | nil => exact List.not_mem_nil
  | cons move moves ih =>
    simp only [happened, List.mem_append, Option.mem_toList, not_or]
    refine ⟨?_, ih (smooth.perform usable civil reaches (spares move List.mem_cons_self))
      fun later member => spares later (List.mem_cons_of_mem _ member)⟩
    -- By a move of its own nobody gives up, only by an event that the invariant rules out.
    intro gives
    cases move with
    | event place =>
      obtain ⟨timed, here, item⟩ := Option.map_eq_some_iff.mp gives
      have happens := smooth.events timed (List.mem_of_getElem? here)
      rw [item] at happens
      exact stays happens
    | arrive | advance | clearCache | dropToken | ask => cases gives

end Functions

end Smooth

end CheckService

end DomainScout
