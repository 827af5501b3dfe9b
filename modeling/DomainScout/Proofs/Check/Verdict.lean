import DomainScout.Proofs.Check.Awaiting
import DomainScout.Proofs.Check.Rejection

/-!
# What the reputation service is found to say

What a run is told of the reputation has one of three shapes. Either the check could not be made, and
no lookup was ever under way; or the last answer to the lookup tells whether the domain is listed; or
something has failed, and the report says what. Among all that a run does, the answers 401 and 403 to
its lookup make the desk drop the stored token, and nothing else does.

Main statement: `reputation_judged`.
-/
namespace DomainScout

open Remote

namespace ReputationReport

/-- Nothing was found out, and the report says why. -/
structure IsVoid (report : ReputationReport) : Prop where
  listed : report.listed = none
  raw : report.raw = .null
  error : ∃ text, report.error = some text ∧ text ≠ ""

/-- The check could not be made. -/
structure IsUnsupported (report : ReputationReport) : Prop extends IsVoid report where
  supported : report.supported = false

/-- The domain is listed, with what the service tells about it, or it is not listed. -/
structure IsVerdict (report : ReputationReport) : Prop where
  supported : report.supported = true
  told : report.listed = some true ∧ report.raw ≠ .null ∨ report.listed = some false ∧ report.raw = .null
  error : report.error = none

/-- The check could be made, and something has failed. -/
structure IsFailure (report : ReputationReport) : Prop extends IsVoid report where
  supported : report.supported = true

theorem isUnsupported (source : TokenSource) : (unsupported source).IsUnsupported := by
  refine ⟨⟨rfl, rfl, _, rfl, ?_⟩, rfl⟩
  have telling := telling_unsupported source
  exact fun empty => telling (congrArg some empty)

theorem isFailure {text : String} (filled : text ≠ "") : (failed text).IsFailure :=
  ⟨⟨rfl, rfl, text, rfl, filled⟩, rfl⟩

theorem IsVoid.error_iff {report : ReputationReport} (void : report.IsVoid) :
    report.error = none ↔ report.listed ≠ none := by
  obtain ⟨text, told, -⟩ := void.error
  simp [told, void.listed]

theorem IsVerdict.error_iff {report : ReputationReport} (verdict : report.IsVerdict) :
    report.error = none ↔ report.listed ≠ none := by
  rcases verdict.told with ⟨told, -⟩ | ⟨told, -⟩ <;> simp [told, verdict.error]

theorem IsVoid.telling {report : ReputationReport} (void : report.IsVoid) : report.Telling := by
  obtain ⟨text, told, filled⟩ := void.error
  unfold Telling
  rw [told]
  exact fun empty => filled (Option.some.inj empty)

theorem IsVerdict.telling {report : ReputationReport} (verdict : report.IsVerdict) : report.Telling := by
  unfold Telling
  rw [verdict.error]
  exact nofun

/-- What an answer to a lookup says, by its status. -/
inductive Means (response : Response) : ReputationReport → Prop
  | listed {raw : Value} (status : response.status = 200) (filled : raw ≠ .null) :
      Means response ⟨true, some true, raw, none⟩
  | unlisted (status : response.status = 404) : Means response ⟨true, some false, .null, none⟩
  | failed {text : String} (other : response.status ≠ 200) (other' : response.status ≠ 404)
      (filled : text ≠ "") : Means response (failed text)

theorem means_ofResponse (response : Response) : Means response (ofResponse response) := by
  have telling := telling_ofResponse response
  unfold ofResponse at telling ⊢
  split
  next status => exact .unlisted status
  next other' =>
    rw [if_neg other'] at telling
    split
    next status =>
      refine .listed status ?_
      -- A body without a value counts as its text.
      split
      · exact nofun
      next filled => exact filled
    next other =>
      rw [if_neg other] at telling
      split
      next rejected =>
        rw [if_pos rejected] at telling
        exact .failed other other' fun empty => telling (congrArg some empty)
      next accepted =>
        rw [if_neg accepted] at telling
        exact .failed other other' fun empty => telling (congrArg some empty)

theorem listed_of_status {response : Response} (status : response.status = 200) :
    (ofResponse response).listed = some true ∧ (ofResponse response).raw ≠ .null := by
  have means := means_ofResponse response
  generalize ofResponse response = report at means ⊢
  cases means with
  | listed _ filled => exact ⟨rfl, filled⟩
  | unlisted missing => cases status.symm.trans missing
  | failed other => exact absurd status other

theorem unlisted_of_status {response : Response} (status : response.status = 404) :
    (ofResponse response).listed = some false ∧ (ofResponse response).raw = .null := by
  have means := means_ofResponse response
  generalize ofResponse response = report at means ⊢
  cases means with
  | listed found => cases status.symm.trans found
  | unlisted => exact ⟨rfl, rfl⟩
  | failed _ other => exact absurd status other

theorem supported_of_ofResult {result : Except CallError Response} {report : ReputationReport}
    (told : ofResult result = .ok report) : report.supported = true := by
  unfold ofResult at told
  split at told
  next response =>
    cases told
    have means := means_ofResponse response
    generalize ofResponse response = report at means ⊢
    cases means <;> rfl
  · cases told
    rfl
  · cases told

end ReputationReport

/-- The event is an answer to a lookup that rejects the token. -/
def CheckEvent.rejects : CheckEvent → Bool
  | .ended _ (.lookup _) _ (.ended (.answered response)) => ReputationReport.rejectsToken response
  | _ => false

/-- The event is not one of an errand of another run. -/
def CheckEvent.IsOwn (event : CheckEvent) (id : RunId) : Prop :=
  ∀ other errand, event.errand? = some (other, errand) → other = id

theorem CheckEvent.exists_of_rejects {event : CheckEvent} (rejects : event.rejects = true) :
    ∃ id token attempt response, event = .ended id (.lookup token) attempt (.ended (.answered response)) ∧
      (response.status = 401 ∨ response.status = 403) := by
  unfold CheckEvent.rejects at rejects
  split at rejects
  next id token attempt response =>
    unfold ReputationReport.rejectsToken at rejects
    rw [Bool.or_eq_true, beq_iff_eq, beq_iff_eq] at rejects
    exact ⟨id, token, attempt, response, rfl, rejects⟩
  · cases rejects

/-- A rejection does not pass with time, so it is not tried again. -/
theorem Remote.Plan.verdict_of_rejected {response : Response}
    (status : response.status = 401 ∨ response.status = 403) (plan : Plan) (attempt : Nat) :
    plan.verdict attempt (.ended (.answered response)) = .final := by
  have lasting : response.mayPass = false := by
    unfold Response.mayPass
    rcases status with status | status <;> rw [status] <;> rfl
  unfold verdict Outcome.mayPass
  simp only [lasting]
  rfl

theorem Remote.Plan.mayPass_of_verdict {plan : Plan} {attempt : Nat} {outcome : Outcome}
    (again : plan.verdict attempt outcome ≠ .final) : outcome.mayPass = true := by
  unfold verdict at again
  by_contra lasting
  rw [Bool.not_eq_true] at lasting
  simp [lasting] at again

namespace CheckService

variable {σ : Type} {sites : CheckSites σ} {service start : CheckService σ} {id : RunId} {move : Move}
  {moves : List Move}

/-! ### What becomes of the stored token -/

theorem rejects_lookup (plan : Plan) (id : RunId) (token : String) (attempt : Nat) (outcome : Outcome) :
    (CheckEvent.ended id (.lookup token) attempt outcome).rejects = rejectsToken (plan.result outcome) := by
  cases outcome with
  | overdue => rfl
  | ended ending => cases ending <;> rfl

/-- What may pass is not an answer with a token. -/
theorem tokenOf_eq_none_of_mayPass {plan : Plan} {outcome : Outcome} (passes : outcome.mayPass = true)
    (clock : Int) : (tokenOf clock (Reputation.loginResult plan outcome)).toOption = none := by
  cases outcome with
  | overdue => rfl
  | ended ending =>
    cases ending with
    | failed => rfl
    | crashed => cases passes
    | answered response =>
      have fails : response.isSuccess = false := by
        unfold Outcome.mayPass Response.mayPass at passes
        simp only [Bool.or_eq_true, decide_eq_true_eq, beq_iff_eq] at passes
        unfold Response.isSuccess
        simp only [Bool.and_eq_false_iff, decide_eq_false_iff_not]
        omega
      have refuses : Reputation.loginData response =
          .error (Reputation.refused (Reputation.statusText response 200)) := by
        unfold Reputation.loginData
        rw [if_neg (by simp [fails])]
      change (tokenOf clock ((Reputation.loginData response).mapError CallError.problem)).toOption = none
      rw [refuses]
      rfl

/-- An event leaves the stored token, or another one in its place, unless it rejects it. -/
theorem token_perform {event : CheckEvent} (happens : service.eventOf? move = some event) :
    (service.perform sites move).desk.token =
      if event.rejects then none else (service.broughtBy sites event).or service.desk.token := by
  have how := advanced sites service move
  generalize service.perform sites move = after at how ⊢
  cases how with
  | calm carries unended =>
    rw [carries.desk]
    cases event with
    | arrive | giveUp | send | forget => rfl
    | ended id errand attempt outcome =>
      -- The errand is tried again, so its outcome is one that may pass.
      have again := unended id errand attempt outcome happens
      cases errand with
      | availability | snapshots => rfl
      | logIn user password =>
        have passes := Plan.mayPass_of_verdict again
        simp only [CheckEvent.rejects, broughtBy, tokenOf_eq_none_of_mayPass passes, Option.none_or]
        rfl
      | lookup token =>
        have accepted : (CheckEvent.ended id (.lookup token) attempt outcome).rejects = false := by
          by_contra rejects
          rw [Bool.not_eq_false] at rejects
          obtain ⟨_, _, _, response, same, status⟩ := CheckEvent.exists_of_rejects rejects
          cases same
          exact again (Plan.verdict_of_rejected status _ _)
        rw [accepted]
        rfl
  | dropped drops =>
    subst drops
    cases happens
  | launched arrives carries =>
    cases happens.symm.trans arrives
    rw [carries.desk]
    exact (Desk.ask_keeps _ _ _).2
  | @completed id errand attempt outcome agenda ended =>
    cases happens.symm.trans ended
    cases errand with
    | logIn user password =>
      rw [errandEnded, (carries_loginEnded _).desk]
      exact Desk.token_loggedIn _ _ _
    | lookup token =>
      rw [errandEnded, (carries_lookupEnded _).desk, rejects_lookup (sites.plan id.domain (.lookup token))]
      simp only
      split <;> rfl
    | availability | snapshots =>
      rw [(carries_heard rfl outcome).desk]
      rfl

/-- The service with another token at its desk. -/
def withToken (service : CheckService σ) (stored : Option Token) : CheckService σ :=
  { service with desk := { service.desk with token := stored } }

/-- A move leaves no token at the desk, whichever was stored before. -/
def DropsToken (sites : CheckSites σ) (service : CheckService σ) (move : Move) : Prop :=
  ∀ stored, ((service.withToken stored).perform sites move).desk.token = none

theorem dropsToken_iff {event : CheckEvent} (happens : service.eventOf? move = some event) :
    DropsToken sites service move ↔ event.rejects = true := by
  have law : ∀ stored, ((service.withToken stored).perform sites move).desk.token =
      if event.rejects then none else ((service.withToken stored).broughtBy sites event).or stored :=
    fun stored => @token_perform _ sites (service.withToken stored) move event (by
      cases move <;> exact happens)
  constructor
  · intro drops
    by_contra accepted
    have lost := (law (some ⟨"", 0⟩)).symm.trans (drops _)
    rw [if_neg accepted] at lost
    cases (Option.or_eq_none_iff.mp lost).2
  · intro rejects stored
    rw [law, if_pos rejects]

/-! ### What runs are told -/

/-- Along a schedule the lookup of a run came out with a status. -/
def LookedUp (sites : CheckSites σ) (service : CheckService σ) (moves : List Move) (id : RunId)
    (status : Nat) : Prop :=
  ∃ token response, service.CameOut sites moves id (.lookup token) (.ended (.answered response)) ∧
    response.status = status

/-- The reports that a run can come by along a schedule. -/
inductive Found (sites : CheckSites σ) (service : CheckService σ) (moves : List Move) (id : RunId) :
    ReputationReport → Prop
  | unsupported (source : TokenSource) : Found sites service moves id (.unsupported source)
  | failed {text : String} (filled : text ≠ "") : Found sites service moves id (.failed text)
  | answered {token : String} {response : Response}
      (came : service.CameOut sites moves id (.lookup token) (.ended (.answered response))) :
      Found sites service moves id (.ofResponse response)

theorem Learns.found {report : ReputationReport} (learns : Learns sites service moves id (.ok report)) :
    Found sites service moves id report := by
  generalize told : Except.ok report = result at learns
  cases learns with
  | tokenless source =>
    cases told
    exact .unsupported source
  | refused problem =>
    cases told
    exact .failed problem.describe_ne_empty
  | crashed => cases told
  | @lookedUp token outcome came =>
    cases outcome with
    | overdue =>
      cases told
      exact .failed (Problem.describe_ne_empty _)
    | ended ending =>
      cases ending with
      | answered response =>
        cases told
        exact .answered came
      | failed =>
        cases told
        exact .failed (Problem.describe_ne_empty _)
      | crashed => cases told

theorem Found.shape {report : ReputationReport} (found : Found sites service moves id report) :
    report.IsUnsupported ∨ report.IsVerdict ∨ report.IsFailure := by
  cases found with
  | unsupported source => exact .inl (ReputationReport.isUnsupported source)
  | failed filled => exact .inr (.inr (ReputationReport.isFailure filled))
  | @answered _ response =>
    have means := ReputationReport.means_ofResponse response
    generalize ReputationReport.ofResponse response = report at means ⊢
    cases means with
    | listed _ filled => exact .inr (.inl ⟨rfl, .inl ⟨rfl, filled⟩, rfl⟩)
    | unlisted => exact .inr (.inl ⟨rfl, .inr ⟨rfl, rfl⟩, rfl⟩)
    | failed _ _ filled => exact .inr (.inr (ReputationReport.isFailure filled))

/-- What is known of the report on the reputation that a run has come by along a schedule. -/
structure Judged (sites : CheckSites σ) (start : CheckService σ) (moves : List Move) (id : RunId)
    (report : ReputationReport) : Prop where
  /-- The report has one of three shapes; where it is unsupported, no lookup was ever under way. -/
  shape :
    (report.IsUnsupported ∧ ∀ earlier later token, moves = earlier ++ later →
      (id, .lookup token) ∉ (start.history sites earlier).underWay) ∨
    report.IsVerdict ∨ report.IsFailure
  /-- The domain is listed exactly if the last answer to the lookup was 200. -/
  listed : report.listed = some true ∧ report.raw ≠ .null ↔ LookedUp sites start moves id 200
  /-- The domain is not listed exactly if the last answer to the lookup was 404. -/
  unlisted : report.listed = some false ∧ report.raw = .null ↔ LookedUp sites start moves id 404
  error : report.error = none ↔ report.listed ≠ none
  telling : report.error ≠ some ""
  /-- Some event of the run drops the stored token exactly if the last answer to the lookup was 401
  or 403. -/
  drops :
    (∃ earlier move later event, moves = earlier ++ move :: later ∧
      (start.history sites earlier).eventOf? move = some event ∧ event.IsOwn id ∧
      DropsToken sites (start.history sites earlier) move) ↔
    LookedUp sites start moves id 401 ∨ LookedUp sites start moves id 403

theorem Found.error_iff {report : ReputationReport} (found : Found sites service moves id report) :
    report.error = none ↔ report.listed ≠ none := by
  rcases found.shape with unsupported | verdict | failure
  · exact unsupported.error_iff
  · exact verdict.error_iff
  · exact failure.error_iff

theorem Found.telling {report : ReputationReport} (found : Found sites service moves id report) :
    report.error ≠ some "" := by
  rcases found.shape with unsupported | verdict | failure
  · exact unsupported.telling
  · exact verdict.telling
  · exact failure.telling

/-- Only an answer with the status for it says that a domain is listed, or that it is not. -/
theorem Found.lookedUp_of_listed {report : ReputationReport} {status : Nat}
    (found : Found sites service moves id report) (listed : report.listed = some (status == 200))
    (either : status = 200 ∨ status = 404) : LookedUp sites service moves id status := by
  cases found with
  | unsupported | failed => cases listed
  | @answered token response came =>
    have means := ReputationReport.means_ofResponse response
    generalize ReputationReport.ofResponse response = report at means listed
    refine ⟨token, response, came, ?_⟩
    cases means with
    | listed answer =>
      rcases either with rfl | rfl
      · exact answer
      · cases listed
    | unlisted answer =>
      rcases either with rfl | rfl
      · cases listed
      · exact answer
    | failed => cases listed

/-- An event of a run drops the stored token exactly if it is a rejection of its lookup. -/
theorem exists_dropsToken_iff : (∃ earlier move later event, moves = earlier ++ move :: later ∧
      (start.history sites earlier).eventOf? move = some event ∧ event.IsOwn id ∧
      DropsToken sites (start.history sites earlier) move) ↔
    LookedUp sites start moves id 401 ∨ LookedUp sites start moves id 403 := by
  constructor
  · rintro ⟨earlier, move, later, event, rfl, happens, own, drops⟩
    obtain ⟨other, token, attempt, response, rfl, status⟩ :=
      CheckEvent.exists_of_rejects ((dropsToken_iff happens).mp drops)
    cases own other (.lookup token) rfl
    -- A rejection does not pass with time, so the lookup has come out by it.
    have came : start.CameOut sites (earlier ++ move :: later) id (.lookup token)
        (.ended (.answered response)) :=
      .behind earlier (.now happens (Plan.verdict_of_rejected status _ _))
    exact status.imp (fun status => ⟨token, response, came, status⟩)
      fun status => ⟨token, response, came, status⟩
  · intro rejected
    obtain ⟨token, response, came, status⟩ : ∃ token response,
        start.CameOut sites moves id (.lookup token) (.ended (.answered response)) ∧
          (response.status = 401 ∨ response.status = 403) := by
      rcases rejected with ⟨token, response, came, status⟩ | ⟨token, response, came, status⟩
      · exact ⟨token, response, came, .inl status⟩
      · exact ⟨token, response, came, .inr status⟩
    obtain ⟨earlier, move, later, attempt, rfl, happens, -⟩ := came.exists_move
    refine ⟨earlier, move, later, _, rfl, happens, ?_, (dropsToken_iff happens).mpr ?_⟩
    · intro other errand same
      cases same
      rfl
    · unfold CheckEvent.rejects ReputationReport.rejectsToken
      rcases status with status | status <;> simp [status]

/-- Along every schedule, whatever the credentials, logins and lookups, this is known of a report on
the reputation that a run has come by. -/
theorem reputation_judged (sites : CheckSites σ) (server : σ) (credentials : Credentials) (lifetime : Measure)
    (moves : List Move) {id : RunId} {run : Run} {report : ReputationReport}
    (known : ((new server credentials lifetime).history sites moves).run? id = some run)
    (told : run.reputation = some (.ok report)) :
    Judged sites (new server credentials lifetime) moves id report := by
  let start := new server credentials lifetime
  have awaited : Awaited start := .new server credentials lifetime
  have knows : (start.history sites moves).reputationOf? id = some (some (.ok report)) := by
    unfold reputationOf?
    rw [known, Option.map_some, told]
  have found : Found sites start moves id report :=
    ((awaited.learns knows).resolve_left nofun).found
  -- Any lookup of the run that has come out is what it was told of.
  have answer : ∀ {status}, LookedUp sites start moves id status →
      ∃ response, response.status = status ∧ report = .ofResponse response := by
    rintro status ⟨token, response, came, rfl⟩
    have same := knows.symm.trans (awaited.reputation_of_cameOut came)
    exact ⟨response, rfl, Except.ok.inj (Option.some.inj (Option.some.inj same))⟩
  constructor
  case shape =>
    rcases found.shape with unsupported | other
    · refine .inl ⟨unsupported, ?_⟩
      rintro earlier later token rfl busy
      have before : Awaited (start.history sites earlier) := awaited.history earlier
      rw [history_append] at knows
      rcases underWay_history later busy with still | ⟨outcome, came⟩
      · have out : id ∈ outFor ((start.history sites earlier).history sites later).underWay := by
          refine Multiset.mem_map.mpr ⟨(id, .lookup token), ?_, rfl⟩
          exact Multiset.mem_filter.mpr ⟨still, rfl⟩
        have untold := (before.history later).untold id (Multiset.mem_add.mpr (.inr out))
        cases untold.symm.trans knows
      · -- What comes of a lookup is never that the check could not be made.
        have same := knows.symm.trans (before.reputation_of_cameOut came)
        have supported := ReputationReport.supported_of_ofResult
          (Option.some.inj (Option.some.inj same)).symm
        cases supported.symm.trans unsupported.supported
    · exact .inr other
  case listed =>
    constructor
    · exact fun listed => found.lookedUp_of_listed listed.1 (.inl rfl)
    · intro lookedUp
      obtain ⟨response, status, rfl⟩ := answer lookedUp
      exact ReputationReport.listed_of_status status
  case unlisted =>
    constructor
    · exact fun unlisted => found.lookedUp_of_listed unlisted.1 (.inr rfl)
    · intro lookedUp
      obtain ⟨response, status, rfl⟩ := answer lookedUp
      exact ReputationReport.unlisted_of_status status
  case error => exact found.error_iff
  case telling => exact found.telling
  case drops => exact exists_dropsToken_iff

/-- A check whose lookup is rejected: it logs in, looks up its domain, and is told. -/
theorem reputation_judged_of_rejected :
    let id : RunId := ⟨"a.com", 0⟩
    let start := new fickle user (.ofMilliseconds 900000)
    let moves : List Move := [.arrive 0 (.text "a.com") none, .event 0, .event 2]
    ∃ run report, (start.history playing moves).run? id = some run ∧
      run.reputation = some (.ok report) ∧ report.error = some "Auth failed (HTTP 401)" ∧
      Judged playing start moves id report := by
  intro id start moves
  have told : (((start.history playing moves).run? id).bind Run.reputation).any (fun
      | .ok report => report.error == some "Auth failed (HTTP 401)"
      | .error _ => false) = true := by
    decide +kernel
  obtain ⟨result, heard, holds⟩ := (Option.any_eq_true _ _).mp told
  obtain ⟨run, known, heard⟩ := Option.bind_eq_some_iff.mp heard
  cases result with
  | error => cases holds
  | ok report =>
    exact ⟨run, report, known, heard, beq_iff_eq.mp holds,
      reputation_judged playing fickle user _ moves known heard⟩

end CheckService

end DomainScout
