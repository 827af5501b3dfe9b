import DomainScout.Proofs.Check.Errands
import DomainScout.Proofs.Check.Resilience
import DomainScout.Remote.Script

/-!
# Tokens that are rejected

A lookup that is rejected makes the token desk drop what it has stored, whichever token that is. So
another token than the rejected one is lost exactly if a login has brought it since the lookup set
out.

Main statement: `spares_iff`.
-/
namespace DomainScout

/-- With a fixed key nobody is sent to log in. -/
theorem Desk.not_logIn_of_key {α : Type} {desk : Desk α} {key : String}
    (configured : desk.credentials.key? = some key) (now : Int) (client : α) {id other : RunId}
    {user password : String} :
    (other, .logIn user password) ∉ (desk.ask now client).1.errands id := by
  rw [ask_of_key configured]
  unfold Direction.errands
  simp only
  split
  · exact fun member => nomatch Multiset.mem_singleton.mp member
  · exact Multiset.notMem_zero _

namespace CheckService

open Remote

variable {σ : Type} {sites : CheckSites σ} {service : CheckService σ} {id : RunId} {move : Move}

/-! ### Tokens that are brought -/

/-- The token that an event brings, if it is the end of a login. -/
def broughtBy (sites : CheckSites σ) (service : CheckService σ) : CheckEvent → Option Token
  | .ended id (.logIn user password) _ outcome =>
    (tokenOf (service.deskClock sites)
      (Reputation.loginResult (sites.plan id.domain (.logIn user password)) outcome)).toOption
  | _ => none

/-- The tokens that logins bring along a schedule. -/
def gained (sites : CheckSites σ) (service : CheckService σ) : List Move → List Token
  | [] => []
  | move :: moves =>
    ((service.eventOf? move).bind (service.broughtBy sites)).toList ++
      gained sites (service.perform sites move) moves

/-- The token that is stored after a move was stored before, or the move has brought it. -/
theorem token_source {stored : Token}
    (held : (service.perform sites move).desk.token = some stored) :
    service.desk.token = some stored ∨
      stored ∈ (service.eventOf? move).bind (service.broughtBy sites) := by
  have how := advanced sites service move
  generalize service.perform sites move = after at how held
  cases how with
  | calm carries => exact .inl (carries.desk ▸ held)
  | dropped => cases held
  | launched _ carries =>
    rw [carries.desk] at held
    exact .inl ((Desk.ask_keeps _ _ _).2 ▸ held)
  | @completed id errand _ outcome _ event =>
    cases errand with
    | logIn user password =>
      rw [errandEnded, (carries_loginEnded _).desk, Desk.token_loggedIn] at held
      rcases Option.or_eq_some_iff.mp held with brought | ⟨-, kept⟩
      · refine .inr ?_
        rw [event]
        exact brought
      · exact .inl kept
    | lookup =>
      rw [errandEnded, (carries_lookupEnded _).desk] at held
      split at held
      · cases held
      · exact .inl held
    | availability | snapshots =>
      rw [(carries_heard rfl outcome).desk] at held
      exact .inl held

theorem token_history {moves : List Move} {stored : Token}
    (held : (service.history sites moves).desk.token = some stored) :
    service.desk.token = some stored ∨ stored ∈ service.gained sites moves := by
  induction moves generalizing service with
  | nil => exact .inl held
  | cons move moves ih =>
    rcases ih held with earlier | later
    · exact (token_source earlier).imp_right fun brought =>
        List.mem_append_left _ (Option.mem_toList.mpr brought)
    · exact .inr (List.mem_append_right _ later)

/-! ### Which token a lookup carries -/

/-- A move sets out an errand that was not under way. -/
def SetsOut (sites : CheckSites σ) (service : CheckService σ) (move : Move)
    (pair : RunId × Errand) : Prop :=
  pair ∉ service.underWay ∧ pair ∈ (service.perform sites move).underWay

instance (sites : CheckSites σ) (service : CheckService σ) (move : Move) (pair : RunId × Errand) :
    Decidable (SetsOut sites service move pair) :=
  inferInstanceAs (Decidable (_ ∧ _))

/-- What is under way has set out by some move. -/
theorem exists_setsOut {moves : List Move} {pair : RunId × Errand} (idle : pair ∉ service.underWay)
    (busy : pair ∈ (service.history sites moves).underWay) :
    ∃ earlier move later, moves = earlier ++ move :: later ∧
      SetsOut sites (service.history sites earlier) move pair := by
  induction moves generalizing service with
  | nil => exact absurd busy idle
  | cons move moves ih =>
    by_cases now : pair ∈ (service.perform sites move).underWay
    · exact ⟨[], move, moves, rfl, idle, now⟩
    · obtain ⟨earlier, next, later, rfl, setsOut⟩ := ih now busy
      exact ⟨move :: earlier, next, later, rfl, setsOut⟩

/-- The lookups after a login carry its token, or the one that was stored. -/
theorem offers_of_login {desk : Desk RunId} {now : Int} {brought : Option Token} {other : RunId}
    {token : String} (member : (id, .lookup token) ∈
      errandsOf (afterLogin other brought (desk.loggedIn now brought).1)) :
    (desk.loggedIn now brought).2.Offers token := by
  have stored := desk.token_loggedIn now brought
  obtain ⟨told, served, carried⟩ := mem_errandsOf.mp member
  rcases List.mem_append.mp served with own | waited
  · obtain ⟨gained, rfl, rfl⟩ := Option.map_eq_some_iff.mp (Option.mem_toList.mp own)
    have gives : Desk.Gives (· = gained.text) (.take ⟨some gained.text, .login⟩) :=
      fun _ handed => (Option.some.inj handed).symm
    exact .inr ⟨gained, stored, (Direction.gives_of_lookup gives carried).symm⟩
  · -- Whoever waited is served by the desk as the login left it.
    have gives := ((Desk.holds_offers (desk.close brought)).serve now desk.waiting.length).1
    exact (Direction.gives_of_lookup (gives told waited) carried).congr
      (Desk.told_loggedIn desk now brought).credentials stored

/-- A lookup sets out with what the desk has to offer at that moment. -/
theorem offers_of_setsOut {token : String} (setsOut : SetsOut sites service move (id, .lookup token)) :
    (service.perform sites move).desk.Offers token := by
  obtain ⟨idle, busy⟩ := setsOut
  have how := advanced sites service move
  generalize service.perform sites move = after at how busy
  cases how with
  | calm carries =>
    rw [carries.underWay, add_zero] at busy
    exact absurd busy idle
  | dropped => exact absurd busy idle
  | @launched _ _ _ host _ _ carries =>
    rw [carries.underWay] at busy
    rcases Multiset.mem_add.mp busy with earlier | new
    · exact absurd earlier idle
    · have told := mem_errands_of_mem_launchErrands new rfl
      have gives := ((Desk.holds_offers service.desk).ask (service.deskClock sites)
        (service.nextRun host)).1
      have kept := service.desk.ask_keeps (service.deskClock sites) (service.nextRun host)
      rw [carries.desk]
      exact (Direction.gives_of_lookup gives told).congr kept.1 kept.2
  | @completed other errand _ outcome agenda event _ left =>
    have gone : (id, .lookup token) ∉ underWay { service with agenda } := by
      intro stays
      rw [left] at idle
      exact idle (Multiset.mem_add.mpr (.inl stays))
    cases errand with
    | logIn user password =>
      rw [errandEnded, (carries_loginEnded _).underWay] at busy
      rw [errandEnded, (carries_loginEnded _).desk]
      exact offers_of_login ((Multiset.mem_add.mp busy).resolve_left gone)
    | lookup =>
      rw [errandEnded, (carries_lookupEnded _).underWay, add_zero] at busy
      exact absurd busy gone
    | availability | snapshots =>
      rw [(carries_heard rfl outcome).underWay, add_zero] at busy
      exact absurd busy gone

/-! ### Fixed keys -/

theorem credentials_perform :
    (service.perform sites move).desk.credentials = service.desk.credentials := by
  have how := advanced sites service move
  generalize service.perform sites move = after at how ⊢
  cases how with
  | calm carries => rw [carries.desk]
  | dropped => rfl
  | launched _ carries =>
    rw [carries.desk]
    exact (Desk.ask_keeps _ _ _).1
  | @completed id errand _ outcome =>
    cases errand with
    | logIn =>
      rw [errandEnded, (carries_loginEnded _).desk]
      exact (Desk.told_loggedIn _ _ _).credentials
    | lookup =>
      rw [errandEnded, (carries_lookupEnded _).desk]
      simp only
      split <;> rfl
    | availability | snapshots =>
      rw [(carries_heard rfl outcome).desk]
      rfl

theorem credentials_history (moves : List Move) :
    (service.history sites moves).desk.credentials = service.desk.credentials :=
  preserved_history (P := fun after => after.desk.credentials = service.desk.credentials)
    (fun _ same => credentials_perform.trans same) rfl moves

/-- With a fixed key there is never a token, and nobody logs in. -/
structure Keyed (service : CheckService σ) : Prop where
  token : service.desk.token = none
  logins : ∀ id user password, (id, .logIn user password) ∉ service.underWay

/-- Only a login that was under way brings a token. -/
theorem underWay_of_brought {stored : Token}
    (brought : stored ∈ (service.eventOf? move).bind (service.broughtBy sites)) :
    ∃ id user password, (id, .logIn user password) ∈ service.underWay := by
  obtain ⟨event, happens, gives⟩ := Option.bind_eq_some_iff.mp brought
  unfold broughtBy at gives
  split at gives
  next id user password _ _ => exact ⟨id, user, password, mem_underWay_of_event happens⟩
  · cases gives

theorem Keyed.perform {key : String} (configured : service.desk.credentials.key? = some key)
    (keyed : Keyed service) (move : Move) : Keyed (service.perform sites move) where
  token := by
    refine Option.eq_none_iff_forall_ne_some.mpr fun stored held => ?_
    rcases token_source held with earlier | brought
    · cases keyed.token.symm.trans earlier
    · obtain ⟨id, user, password, logsIn⟩ := underWay_of_brought brought
      exact keyed.logins id user password logsIn
  logins id user password logsIn := by
    have before := keyed.logins id user password
    have how := advanced sites service move
    generalize service.perform sites move = after at how logsIn
    cases how with
    | calm carries =>
      rw [carries.underWay, add_zero] at logsIn
      exact before logsIn
    | dropped => exact before logsIn
    | launched _ carries =>
      rw [carries.underWay] at logsIn
      rcases Multiset.mem_add.mp logsIn with earlier | new
      · exact before earlier
      · exact Desk.not_logIn_of_key configured _ _ (mem_errands_of_mem_launchErrands new rfl)
    | @completed other errand _ outcome agenda event _ left =>
      have gone : (id, .logIn user password) ∉ underWay { service with agenda } := by
        intro stays
        rw [left] at before
        exact before (Multiset.mem_add.mpr (.inl stays))
      cases errand with
      | logIn => exact keyed.logins _ _ _ (mem_underWay_of_event event)
      | lookup =>
        rw [errandEnded, (carries_lookupEnded _).underWay, add_zero] at logsIn
        exact gone logsIn
      | availability | snapshots =>
        rw [(carries_heard rfl outcome).underWay, add_zero] at logsIn
        exact gone logsIn

/-- With a fixed key there is no token at any moment. -/
theorem token_eq_none_of_key (sites : CheckSites σ) (server : σ) {credentials : Credentials} {key : String}
    (configured : credentials.key? = some key) (lifetime : Measure) (moves : List Move) :
    ((new server credentials lifetime).history sites moves).desk.token = none := by
  let Held (service : CheckService σ) : Prop :=
    service.desk.credentials.key? = some key ∧ Keyed service
  have start : Held (new server credentials lifetime) :=
    ⟨configured, rfl, fun _ _ _ member => Multiset.notMem_zero _ member⟩
  have moved : ∀ {service : CheckService σ} (move : Move), Held service →
      Held (service.perform sites move) := by
    rintro service move ⟨configured, keyed⟩
    exact ⟨by rw [credentials_perform]; exact configured, keyed.perform configured move⟩
  exact (preserved_history moved start moves).2.token

/-! ### What a rejection does -/

/-- What was stored is stored after, or it was the token that was rejected. -/
def Spares (token : String) (service after : CheckService σ) : Prop :=
  after.desk.token = service.desk.token ∨
    ∃ stored, service.desk.token = some stored ∧ stored.text = token

/-- A rejected lookup is not tried again, and the desk has no token after it. -/
theorem token_of_rejected {token : String} {attempt : Nat} {response : Response}
    (event : service.eventOf? move =
      some (.ended id (.lookup token) attempt (.ended (.answered response))))
    (rejected : ReputationReport.rejectsToken response = true) :
    (service.perform sites move).desk.token = none := by
  have final : (sites.plan id.domain (.lookup token)).verdict attempt
      (.ended (.answered response)) = .final := by
    -- A rejection does not pass with time, so it is not tried again.
    have lasting : response.mayPass = false := by
      unfold ReputationReport.rejectsToken at rejected
      unfold Response.mayPass
      rw [Bool.or_eq_true, beq_iff_eq, beq_iff_eq] at rejected
      rcases rejected with status | status <;> rw [status] <;> rfl
    unfold Plan.verdict Outcome.mayPass
    simp only [lasting]
    rfl
  have how := advanced sites service move
  generalize service.perform sites move = after at how ⊢
  cases how with
  | calm _ unended => exact absurd final (unended _ _ _ _ event)
  | dropped => rfl
  | launched arrives => cases event.symm.trans arrives
  | completed ended =>
    cases event.symm.trans ended
    rw [errandEnded, (carries_lookupEnded _).desk]
    have rejects : rejectsToken ((sites.plan id.domain (.lookup token)).result
        (.ended (.answered response))) = true := rejected
    simp only [rejects, if_true]
    rfl

/-- Along every schedule, a rejected lookup costs another token than its own exactly if a login has
brought that one since the lookup set out. -/
theorem spares_iff (sites : CheckSites σ) (server : σ) (credentials : Credentials)
    (lifetime : Measure) (moves : List Move) (last : Move) {id : RunId} {token : String}
    {attempt : Nat} {response : Response}
    (event : ((new server credentials lifetime).history sites moves).eventOf? last =
      some (.ended id (.lookup token) attempt (.ended (.answered response))))
    (rejected : ReputationReport.rejectsToken response = true) :
    let start := new server credentials lifetime
    let state := start.history sites moves
    (∃ earlier move later, moves = earlier ++ move :: later ∧
      SetsOut sites (start.history sites earlier) move (id, .lookup token)) ∧
    ∀ earlier move later, moves = earlier ++ move :: later →
      SetsOut sites (start.history sites earlier) move (id, .lookup token) →
      (Spares token state (state.perform sites last) ↔
        ∀ stored, state.desk.token = some stored →
          stored ∈ ((start.history sites earlier).perform sites move).gained sites later →
          stored.text = token) := by
  intro start state
  refine ⟨exists_setsOut (Multiset.notMem_zero _) (mem_underWay_of_event event), ?_⟩
  rintro earlier move later rfl setsOut
  have dropped : (state.perform sites last).desk.token = none := token_of_rejected event rejected
  constructor
  · rintro (same | ⟨stored, held, own⟩) other held' _
    · cases dropped.symm.trans (same.trans held')
    · cases held.symm.trans held'
      exact own
  · intro newer
    let sent := (start.history sites earlier).perform sites move
    have whole : state = sent.history sites later := history_append _ _
    cases held : state.desk.token with
    | none => exact .inl (dropped.trans held.symm)
    | some stored =>
      refine .inr ⟨stored, held, ?_⟩
      -- A token that no login has brought since was there when the lookup set out, which took it.
      rcases token_history (whole ▸ held) with before | brought
      · rcases offers_of_setsOut setsOut with key | ⟨taken, kept, own⟩
        · have configured : credentials.key? = some token := by
            rw [credentials_perform, credentials_history] at key
            exact key
          cases (token_eq_none_of_key sites server configured lifetime _).symm.trans held
        · cases kept.symm.trans before
          exact own
      · exact newer stored held brought

/-! ### Three checks -/

/-- The event is the rejection of a lookup with some token. -/
def isRejectionOf (token : String) : CheckEvent → Bool
  | .ended _ (.lookup carried) _ (.ended (.answered response)) =>
    carried == token && ReputationReport.rejectsToken response
  | _ => false

theorem exists_of_isRejectionOf {token : String} {event : Option CheckEvent}
    (rejects : event.any (isRejectionOf token) = true) :
    ∃ id attempt response,
      event = some (.ended id (.lookup token) attempt (.ended (.answered response))) ∧
        ReputationReport.rejectsToken response = true := by
  obtain ⟨event, rfl, test⟩ := (Option.any_eq_true _ _).mp rejects
  unfold isRejectionOf at test
  split at test
  next id carried attempt response =>
    rw [Bool.and_eq_true, beq_iff_eq] at test
    obtain ⟨rfl, rejected⟩ := test
    exact ⟨id, attempt, response, rfl, rejected⟩
  · cases test

/-- The answer to a login that gives a token. -/
def tokenReply (token : String) : Reply :=
  ⟨0, .answered ⟨200, Text.Utf8.encode ("\x7b\"token\":\"" ++ token ++ "\"\x7d")⟩⟩

/-- Every login gives another token, and every token is rejected. -/
def fickle : Script :=
  .ofReplies [("login", [tokenReply "t1", tokenReply "t2"]), ("lookup", [⟨0, .answered ⟨401, []⟩⟩])]

/-- The usual sites, where requests get the replies of a script. -/
def playing : CheckSites Script where
  serve := Script.serve
  reputation := ⟨"https://api.spamhaus.com", .ofReal Settings.spamhausTimeout⟩
  archive := ⟨Settings.availabilityUrl, .ofReal Settings.availabilityTimeout, Settings.snapshotsUrl,
    .ofReal Settings.snapshotsTimeout⟩
  epoch := 0

/-- Two lookups set out with one token. One of them is rejected, and a third check logs in again
while the other lookup is still under way. -/
def overlapping : List Move :=
  [.arrive 0 (.text "a.com") none, .event 0, .arrive 1 (.text "b.com") none, .event 3,
    .arrive 2 (.text "c.com") none, .event 5]

/-- The rejection that comes first costs the token that was rejected. -/
theorem spares_of_first_rejection :
    ∃ id attempt response,
      ((new fickle user (.ofMilliseconds 900000)).history playing (overlapping.take 3)).eventOf?
        (.event 3) = some (.ended id (.lookup "t1") attempt (.ended (.answered response))) ∧
      ReputationReport.rejectsToken response = true ∧
      let start := new fickle user (.ofMilliseconds 900000)
      let state := start.history playing (overlapping.take 3)
      (∃ earlier move later, overlapping.take 3 = earlier ++ move :: later ∧
        SetsOut playing (start.history playing earlier) move (id, .lookup "t1")) ∧
      ∀ earlier move later, overlapping.take 3 = earlier ++ move :: later →
        SetsOut playing (start.history playing earlier) move (id, .lookup "t1") →
        (Spares "t1" state (state.perform playing (.event 3)) ↔
          ∀ stored, state.desk.token = some stored →
            stored ∈ ((start.history playing earlier).perform playing move).gained playing later →
            stored.text = "t1") := by
  have rejects : (((new fickle user (.ofMilliseconds 900000)).history playing
      (overlapping.take 3)).eventOf? (.event 3)).any (isRejectionOf "t1") = true := by
    decide +kernel
  obtain ⟨id, attempt, response, event, rejected⟩ := exists_of_isRejectionOf rejects
  exact ⟨id, attempt, response, event, rejected,
    spares_iff playing fickle user _ (overlapping.take 3) (.event 3) event rejected⟩

/-- The rejection that comes later, of the same token, costs the newer one. -/
theorem not_spares_of_late_rejection :
    let state := (new fickle user (.ofMilliseconds 900000)).history playing overlapping
    (∃ id attempt response,
      state.eventOf? (.event 2) =
        some (.ended id (.lookup "t1") attempt (.ended (.answered response))) ∧
      ReputationReport.rejectsToken response = true) ∧
      state.desk.token.map Token.text = some "t2" ∧
      ¬ Spares "t1" state (state.perform playing (.event 2)) := by
  intro state
  -- One evaluation of the schedule gives all three facts.
  obtain ⟨rejects, newer, lost⟩ :
      (state.eventOf? (.event 2)).any (isRejectionOf "t1") = true ∧
        state.desk.token.map Token.text = some "t2" ∧
        (state.perform playing (.event 2)).desk.token = none := by
    decide +kernel
  refine ⟨exists_of_isRejectionOf rejects, newer, ?_⟩
  obtain ⟨kept, held, text⟩ := Option.map_eq_some_iff.mp newer
  rintro (same | ⟨stored, held', own⟩)
  · cases (lost.symm.trans same).trans held
  · cases held.symm.trans held'
    exact absurd (text.symm.trans own) (by decide)

end CheckService

end DomainScout
