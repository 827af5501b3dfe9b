import DomainScout.Proofs.Check.Outage

/-!
# Who is still to be told

A run is told one time what the reputation service says. Until then it is in one place: it waits at
the token desk, or it is out to log in or to look up its domain. Every move keeps the account of this:
whoever leaves such a place comes to another one or is told, and whoever comes to one has been there
before or is a new run.

Main statements: `accounted`, `Awaited.reputation_of_cameOut` and `Awaited.learns`.
-/
namespace DomainScout

open Remote

/-- What runs are told, one after the other. -/
abbrev Tidings := List (RunId × Except Crash ReputationReport)

/-- The runs that are told something, each as often as it is. -/
def Tidings.heard (tidings : Tidings) : Multiset RunId := ↑(tidings.map Prod.fst)

theorem Tidings.mem_heard {tidings : Tidings} {id : RunId} :
    id ∈ tidings.heard ↔ ∃ report, (id, report) ∈ tidings := by
  simp [heard]

theorem Tidings.heard_append (first second : Tidings) :
    heard (first ++ second) = first.heard + second.heard := by
  simp only [heard, List.map_append, Multiset.coe_add]

/-- What a run is told at once by what the desk tells it: without a token there is nothing to do. -/
def Direction.tidings (id : RunId) : Direction → Tidings
  | .take grant =>
    match grant.token.filter (· ≠ "") with
    | some _ => []
    | none => [(id, .ok (.unsupported grant.source))]
  | .logIn _ _ | .wait => []

/-- What runs are told at once by what the desk tells them. -/
def tidingsOf (directions : List (RunId × Direction)) : Tidings :=
  directions.flatMap fun told => told.2.tidings told.1

/-- What the run that logged in is told at once: that it has no token, or why. -/
def loginTidings (id : RunId) : Except CallError Token → Tidings
  | .ok token => Direction.tidings id (.take ⟨some token.text, .login⟩)
  | .error (.problem problem) => [(id, .ok (.failed problem.describe))]
  | .error (.crash crash) => [(id, .error crash)]

/-! ### Accounts -/

/-- The runs that are out to the reputation service, among those on some errands. -/
def outFor (errands : Multiset (RunId × Errand)) : Multiset RunId :=
  (errands.filter (·.2.toArchive = false)).map Prod.fst

@[simp] theorem outFor_zero : outFor 0 = 0 := rfl

theorem outFor_add (first second : Multiset (RunId × Errand)) :
    outFor (first + second) = outFor first + outFor second := by
  unfold outFor
  rw [Multiset.filter_add, Multiset.map_add]

theorem outFor_singleton {id : RunId} {errand : Errand} (reputation : errand.toArchive = false) :
    outFor {(id, errand)} = {id} := by
  unfold outFor
  rw [Multiset.filter_singleton, if_pos reputation]
  rfl

theorem outFor_archive {id : RunId} {errand : Errand} (archive : errand.toArchive = true) :
    outFor {(id, errand)} = 0 := by
  unfold outFor
  rw [Multiset.filter_singleton, if_neg (by simp [archive])]
  rfl

/-- Whoever is attended at the desk is sent out or told. -/
theorem Direction.account {direction : Direction} (attended : direction ≠ .wait) (id : RunId) :
    outFor (direction.errands id) + (direction.tidings id).heard = {id} := by
  cases direction with
  | wait => exact absurd rfl attended
  | logIn user password =>
    change outFor {(id, .logIn user password)} + 0 = {id}
    rw [outFor_singleton rfl, add_zero]
  | take grant =>
    unfold errands tidings
    simp only
    cases grant.token.filter (· ≠ "") with
    | some token =>
      change outFor {(id, .lookup token)} + 0 = {id}
      rw [outFor_singleton rfl, add_zero]
    | none => rfl

theorem account_directions {directions : List (RunId × Direction)}
    (attended : ∀ told ∈ directions, told.2 ≠ .wait) :
    outFor (errandsOf directions) + (tidingsOf directions).heard = ↑(directions.map Prod.fst) := by
  induction directions with
  | nil => rfl
  | cons first rest ih =>
    have later := ih fun told member => attended told (List.mem_cons_of_mem _ member)
    have now := Direction.account (attended first (List.mem_cons_self ..)) first.1
    have split : tidingsOf (first :: rest) = first.2.tidings first.1 ++ tidingsOf rest :=
      List.flatMap_cons
    rw [errandsOf_cons, outFor_add, split, Tidings.heard_append, List.map_cons, ← Multiset.cons_coe,
      ← later, ← Multiset.singleton_add, ← now]
    ac_rfl

theorem account_login (id : RunId) (token : Except CallError Token) :
    outFor (errandsOf (CheckService.afterLogin id token.toOption [])) + (loginTidings id token).heard =
      {id} := by
  cases token with
  | ok token =>
    have told := @Direction.account (.take ⟨some token.text, .login⟩) nofun id
    have sent : errandsOf (CheckService.afterLogin id (some token) []) =
        Direction.errands id (.take ⟨some token.text, .login⟩) := add_zero _
    rw [Except.toOption, sent]
    exact told
  | error error => cases error <;> rfl

/-- Whoever asks at the desk waits there, or is sent out, or told. -/
theorem account_ask (desk : Desk RunId) (now : Int) (id : RunId) :
    (↑(desk.ask now id).2.waiting : Multiset RunId) +
        (outFor ((desk.ask now id).1.errands id) + ((desk.ask now id).1.tidings id).heard) =
      ↑desk.waiting + {id} := by
  have attended : ∀ direction : Direction, direction ≠ .wait →
      (↑desk.waiting : Multiset RunId) + (outFor (direction.errands id) + (direction.tidings id).heard) =
        ↑desk.waiting + {id} :=
    fun direction attended => by rw [direction.account attended]
  have how := desk.asked now id
  generalize desk.ask now id = outcome at how ⊢
  cases how with
  | key | missing | cached | logIn => exact attended _ nofun
  | wait =>
    change (↑(desk.waiting ++ [id]) : Multiset RunId) + (0 + 0) = ↑desk.waiting + {id}
    rw [← Multiset.coe_add, add_zero, add_zero]
    rfl

/-- When a login has ended, whoever no longer waits is sent out or told. -/
theorem account_loggedIn (desk : Desk RunId) (now : Int) (token : Option Token) :
    (↑(desk.loggedIn now token).2.waiting : Multiset RunId) +
        (outFor (errandsOf (desk.loggedIn now token).1) +
          (tidingsOf (desk.loggedIn now token).1).heard) =
      ↑desk.waiting := by
  have told := Desk.told_loggedIn desk now token
  have queue : desk.waiting = _ := told.queue
  rw [account_directions told.attended, queue, ← Multiset.coe_add, add_comm]

namespace CheckService

variable {σ : Type} {sites : CheckSites σ} {service after : CheckService σ} {id : RunId} {move : Move}
  {moves : List Move}

/-! ### What runs are told -/

/-- What a run has been told of the reputation, if there is such a run. -/
def reputationOf? (service : CheckService σ) (id : RunId) :
    Option (Option (Except Crash ReputationReport)) :=
  (service.run? id).map Run.reputation

/-- Runs have been told some tidings, and otherwise they know what they knew. -/
def Tells (tidings : Tidings) (before after : RunId → Option (Option (Except Crash ReputationReport))) :
    Prop :=
  ∀ id, id ∉ tidings.heard ∧ after id = before id ∨
    ∃ report, (id, report) ∈ tidings ∧ after id = (before id).map fun _ => some report

theorem Tells.refl (knows : RunId → Option (Option (Except Crash ReputationReport))) :
    Tells [] knows knows :=
  fun _ => .inl ⟨Multiset.notMem_zero _, rfl⟩

theorem Tells.same (runs : after.runs = service.runs) :
    Tells [] service.reputationOf? after.reputationOf? := by
  have same : after.reputationOf? = service.reputationOf? := by
    funext id
    unfold reputationOf? run?
    rw [runs]
  rw [same]
  exact .refl _

theorem Tells.trans {before middle last : RunId → Option (Option (Except Crash ReputationReport))}
    {first second : Tidings} (one : Tells first before middle) (other : Tells second middle last) :
    Tells (first ++ second) before last := by
  intro id
  rw [Tidings.heard_append, Multiset.mem_add, not_or]
  rcases other id with ⟨unheard, same⟩ | ⟨report, told, knows⟩
  · rcases one id with ⟨unheard', same'⟩ | ⟨report, told, knows⟩
    · exact .inl ⟨⟨unheard', unheard⟩, same.trans same'⟩
    · exact .inr ⟨report, List.mem_append_left _ told, same.trans knows⟩
  · refine .inr ⟨report, List.mem_append_right _ told, knows.trans ?_⟩
    rcases one id with ⟨-, same'⟩ | ⟨report', -, knows'⟩
    · rw [same']
    · rw [knows', Option.map_map]
      rfl

theorem reputationOf?_updateRun {change : Run → Run} (keeps : ∀ run, (change run).id = run.id)
    (other : RunId) :
    (service.updateRun id change).reputationOf? other =
      (service.run? other).map fun run => if other = id then (change run).reputation else run.reputation := by
  unfold reputationOf?
  rw [run?_updateRun keeps, Option.map_map]
  refine Option.map_congr fun run found => ?_
  have named : run.id = other := (mem_of_run? found).2
  simp only [Function.comp_apply, named]
  split <;> rfl

theorem tells_conclude (id : RunId) :
    Tells [] service.reputationOf? (service.conclude id).reputationOf? := by
  have ended := concluded service id
  generalize service.conclude id = outcome at ended ⊢
  cases ended with
  | left => exact .refl _
  | @finished run outcome =>
    -- A run that ends knows what it knew.
    have noted : ∀ other, (service.finish id outcome).reputationOf? other = service.reputationOf? other := by
      intro other
      rw [finish_eq]
      refine (@reputationOf?_updateRun _ service id
        (fun run => { run with outcome := some outcome }) (fun _ => rfl) other).trans ?_
      simp only [ite_self]
      rfl
    exact fun other => .inl ⟨Multiset.notMem_zero _, noted other⟩

/-- What is taken in from the archive is no tidings. -/
theorem tells_settle {change : Run → Run} (keeps : ∀ run, (change run).id = run.id)
    (quiet : ∀ run, (change run).reputation = run.reputation) :
    Tells [] service.reputationOf? (service.settle id change).reputationOf? := by
  have noted : Tells [] service.reputationOf? (service.updateRun id change).reputationOf? := by
    refine fun other => .inl ⟨Multiset.notMem_zero _, ?_⟩
    rw [reputationOf?_updateRun keeps]
    simp only [quiet, ite_self]
    rfl
  exact noted.trans (tells_conclude id)

theorem tells_withReputation (report : Except Crash ReputationReport) :
    Tells [(id, report)] service.reputationOf?
      (service.settle id (·.withReputation report)).reputationOf? := by
  have noted : Tells [(id, report)] service.reputationOf?
      (service.updateRun id (·.withReputation report)).reputationOf? := by
    intro other
    rw [@reputationOf?_updateRun _ service id (·.withReputation report) fun _ => rfl]
    by_cases own : other = id
    · subst own
      refine .inr ⟨report, List.mem_singleton.mpr rfl, ?_⟩
      simp only [if_true, Run.withReputation, reputationOf?, Option.map_map]
      rfl
    · refine .inl ⟨?_, ?_⟩
      · simpa [Tidings.heard] using own
      · simp only [if_neg own]
        rfl
  exact noted.trans (tells_conclude id)

theorem tells_send {errand : Errand} {attempt : Nat} :
    Tells [] service.reputationOf? (service.send sites id errand attempt).reputationOf? :=
  .same runs_send

theorem tells_follow (direction : Direction) :
    Tells (direction.tidings id) service.reputationOf?
      (service.follow sites id direction).reputationOf? := by
  cases direction with
  | wait => exact .refl _
  | logIn user password => exact tells_send
  | take grant =>
    unfold follow Direction.tidings
    simp only
    cases grant.token.filter (· ≠ "") with
    | some token => exact tells_send
    | none => exact tells_withReputation _

theorem tells_followAll (directions : List (RunId × Direction)) :
    Tells (tidingsOf directions) service.reputationOf?
      (service.followAll sites directions).reputationOf? := by
  induction directions generalizing service with
  | nil => exact .refl _
  | cons first rest ih =>
    have split : tidingsOf (first :: rest) = first.2.tidings first.1 ++ tidingsOf rest :=
      List.flatMap_cons
    rw [split]
    exact (tells_follow first.2).trans ih

/-- A new run is told what the desk tells it, and then sets out for the archive. -/
theorem tells_launch (id : RunId) :
    Tells ((service.desk.ask (service.deskClock sites) id).1.tidings id)
      (reputationOf? { service with runs := service.runs ++ [Run.new id] })
      (service.launch sites id).reputationOf? := by
  let boarded : CheckService σ := { service with
    desk := (service.desk.ask (service.deskClock sites) id).2
    runs := service.runs ++ [Run.new id]
    flights := service.flights.board id }
  have followed : Tells _ boarded.reputationOf? (boarded.follow sites id _).reputationOf? :=
    tells_follow (service.desk.ask (service.deskClock sites) id).1
  have launched : Tells _ boarded.reputationOf? (service.launch sites id).reputationOf? :=
    (followed.trans tells_send).trans tells_send
  rw [List.append_nil, List.append_nil] at launched
  exact launched

theorem tells_resume (token : Except CallError Token) :
    Tells (loginTidings id token) service.reputationOf? (service.resume sites id token).reputationOf? := by
  unfold resume
  split
  next token => exact tells_follow (.take ⟨some token.text, .login⟩)
  · exact tells_withReputation _
  · exact tells_withReputation _

theorem tells_loginEnded (token : Except CallError Token) :
    Tells
      (loginTidings id token ++
        tidingsOf (service.desk.loggedIn (service.deskClock sites) token.toOption).1)
      service.reputationOf? (service.loginEnded sites id token).reputationOf? := by
  have resumed := @tells_resume _ sites { service with
    desk := (service.desk.loggedIn (service.deskClock sites) token.toOption).2 } id token
  exact resumed.trans (tells_followAll _)

theorem tells_lookupEnded (result : Except CallError Response) :
    Tells [(id, ReputationReport.ofResult result)] service.reputationOf?
      (service.lookupEnded id result).reputationOf? := by
  unfold lookupEnded
  split
  · exact @tells_withReputation _ service.dropToken id _
  · exact tells_withReputation _

theorem tells_heard {errand : Errand} (archive : errand.toArchive = true) (outcome : Outcome) :
    Tells [] service.reputationOf? (service.errandEnded sites id errand outcome).reputationOf? := by
  cases errand with
  | logIn | lookup => cases archive
  | availability =>
    refine tells_settle (takesIn_availability _).id fun run => ?_
    unfold Run.withAvailability
    split <;> rfl
  | snapshots =>
    refine tells_settle (takesIn_snapshots _).id fun run => ?_
    unfold Run.withSnapshots
    split <;> rfl

/-! ### What a move hands on -/

/-- The runs that are still to be told, each as often as it stands somewhere: in the queue at the desk,
or out to the reputation service. -/
def awaiting (service : CheckService σ) : Multiset RunId :=
  ↑service.desk.waiting + outFor service.underWay

/-- Who is still to be told follows from who waits at the desk and which errands set out. -/
theorem Carries.awaiting {more : Multiset (RunId × Errand)} (carries : Carries service more after) :
    after.awaiting = service.awaiting + outFor more := by
  unfold CheckService.awaiting
  rw [carries.desk, carries.underWay, outFor_add, add_assoc]

theorem outFor_launchErrands (id : RunId) (direction : Direction) :
    outFor (launchErrands id direction) = outFor (direction.errands id) := by
  unfold launchErrands
  rw [outFor_add, outFor_add, outFor_archive rfl, outFor_archive rfl, add_zero, add_zero]

/-- When a login is over, whoever is no longer to be told has been told, or is the one who logged in. -/
theorem awaiting_loginEnded (token : Except CallError Token) :
    (service.loginEnded sites id token).awaiting +
        Tidings.heard (loginTidings id token ++
          tidingsOf (service.desk.loggedIn (service.deskClock sites) token.toOption).1) =
      service.awaiting + {id} := by
  have own := account_login id token
  have others := account_loggedIn service.desk (service.deskClock sites) token.toOption
  have sent : ∀ directions, errandsOf (afterLogin id token.toOption directions) =
      errandsOf (afterLogin id token.toOption []) + errandsOf directions := by
    intro directions
    unfold afterLogin
    rw [List.append_nil, errandsOf_append]
  rw [(carries_loginEnded token).awaiting, sent, outFor_add, Tidings.heard_append, ← own]
  unfold awaiting
  rw [← others]
  ac_rfl

theorem awaiting_lookupEnded (result : Except CallError Response) :
    (service.lookupEnded id result).awaiting = service.awaiting := by
  rw [(carries_lookupEnded result).awaiting, outFor_zero, add_zero]
  unfold awaiting
  simp only
  split <;> rfl

theorem awaiting_heard {errand : Errand} (archive : errand.toArchive = true) (outcome : Outcome) :
    (service.errandEnded sites id errand outcome).awaiting = service.awaiting :=
  (carries_heard archive outcome).awaiting.trans (add_zero _)

/-- The reasons for which a run is told something by a move. -/
inductive Reason (sites : CheckSites σ) (service : CheckService σ) (move : Move) (id : RunId) :
    Except Crash ReputationReport → Prop
  /-- There is no token for it. -/
  | tokenless (source : TokenSource) : Reason sites service move id (.ok (.unsupported source))
  /-- Its login has failed. -/
  | refused (problem : Problem) : Reason sites service move id (.ok (.failed problem.describe))
  | crashed (crash : Crash) : Reason sites service move id (.error crash)
  /-- Its lookup is over. -/
  | lookedUp {token : String} {attempt : Nat} {outcome : Outcome}
      (event : service.eventOf? move = some (.ended id (.lookup token) attempt outcome))
      (final : (sites.plan id.domain (.lookup token)).verdict attempt outcome = .final) :
      Reason sites service move id
        (ReputationReport.ofResult ((sites.plan id.domain (.lookup token)).result outcome))

/-- What runs know before a move, the new ones of which know nothing. -/
def knowing (service : CheckService σ) (fresh : Multiset RunId) (id : RunId) :
    Option (Option (Except Crash ReputationReport)) :=
  (service.reputationOf? id).or (if id ∈ fresh then some none else none)

theorem knowing_zero : service.knowing 0 = service.reputationOf? := by
  funext id
  unfold knowing
  rw [if_neg (Multiset.notMem_zero id), Option.or_none]

theorem knowing_singleton (id : RunId) :
    service.knowing {id} = reputationOf? { service with runs := service.runs ++ [Run.new id] } := by
  funext other
  unfold knowing reputationOf?
  rw [Informs.run?_append, Option.map_or]
  congr 1
  change _ = Option.map Run.reputation (if id = other then some (Run.new id) else none)
  by_cases own : other = id
  · rw [if_pos (Multiset.mem_singleton.mpr own), if_pos own.symm]
    rfl
  · rw [if_neg (mt Multiset.mem_singleton.mp own), if_neg fun same => own same.symm]
    rfl

/-- The account of a move: who is new, and who is told what. -/
structure Accounted (sites : CheckSites σ) (service : CheckService σ) (move : Move)
    (fresh : Multiset RunId) (tidings : Tidings) (after : CheckService σ) : Prop where
  /-- Whoever was there or is new is still to be told, or is told. -/
  balance : service.awaiting + fresh = after.awaiting + tidings.heard
  single : fresh.Nodup
  unknown : ∀ id ∈ fresh, service.run? id = none
  tells : Tells tidings (service.knowing fresh) after.reputationOf?
  reasons : ∀ id report, (id, report) ∈ tidings → Reason sites service move id report
  /-- A run hears of its lookup when that is over. -/
  lookups : ∀ id token attempt outcome,
    service.eventOf? move = some (.ended id (.lookup token) attempt outcome) →
    (sites.plan id.domain (.lookup token)).verdict attempt outcome = .final →
    (id, ReputationReport.ofResult ((sites.plan id.domain (.lookup token)).result outcome)) ∈ tidings

theorem reason_of_direction {direction : Direction} {other : RunId}
    {report : Except Crash ReputationReport} (told : (id, report) ∈ direction.tidings other) :
    Reason sites service move id report := by
  cases direction with
  | wait | logIn => cases told
  | take grant =>
    unfold Direction.tidings at told
    simp only at told
    split at told
    · cases told
    · cases List.mem_singleton.mp told
      exact .tokenless _

theorem reason_of_login {token : Except CallError Token} {other : RunId}
    {report : Except Crash ReputationReport} (told : (id, report) ∈ loginTidings other token) :
    Reason sites service move id report := by
  unfold loginTidings at told
  split at told
  · exact reason_of_direction told
  · cases List.mem_singleton.mp told
    exact .refused _
  · cases List.mem_singleton.mp told
    exact .crashed _

theorem awaiting_of_left {agenda : Agenda CheckEvent} {errand : Errand}
    (left : service.underWay = underWay { service with agenda } + {(id, errand)}) :
    service.awaiting = awaiting { service with agenda } + outFor {(id, errand)} := by
  unfold awaiting
  rw [left, outFor_add, add_assoc]

section Cases

variable {tidings : Tidings} {agenda : Agenda CheckEvent} {attempt : Nat} {outcome : Outcome}

/-- What is handed on when no run is new. -/
theorem Accounted.known (balance : service.awaiting = after.awaiting + tidings.heard)
    (tells : Tells tidings service.reputationOf? after.reputationOf?)
    (reasons : ∀ id report, (id, report) ∈ tidings → Reason sites service move id report)
    (lookups : ∀ id token attempt outcome,
      service.eventOf? move = some (.ended id (.lookup token) attempt outcome) →
      (sites.plan id.domain (.lookup token)).verdict attempt outcome = .final →
      (id, ReputationReport.ofResult ((sites.plan id.domain (.lookup token)).result outcome)) ∈ tidings) :
    Accounted sites service move 0 tidings after where
  balance := (add_zero _).trans balance
  single := Multiset.nodup_zero
  unknown _ member := absurd member (Multiset.notMem_zero _)
  tells := by rwa [knowing_zero]
  reasons := reasons
  lookups := lookups

/-- What is handed on when nobody is told anything either. -/
theorem Accounted.quiet (balance : after.awaiting = service.awaiting)
    (tells : Tells [] service.reputationOf? after.reputationOf?)
    (unended : ∀ id token attempt outcome,
      service.eventOf? move = some (.ended id (.lookup token) attempt outcome) →
      (sites.plan id.domain (.lookup token)).verdict attempt outcome ≠ .final) :
    Accounted sites service move 0 [] after :=
  .known (balance.symm.trans (add_zero _).symm) tells nofun
    fun id token attempt outcome event final => absurd final (unended id token attempt outcome event)

/-- A new run waits at the desk, or is sent out or told by it. -/
theorem accounted_launch (tracked : Tracked service) {caller : Nat} {domain : Value}
    {patience : Option Nat} {host : String}
    (event : service.eventOf? move = some (.arrive caller domain patience))
    (carries : Carries
      { service with
        desk := (service.desk.ask (service.deskClock sites) (service.nextRun host)).2
        runs := service.runs ++ [Run.new (service.nextRun host)] }
      (launchErrands (service.nextRun host)
        (service.desk.ask (service.deskClock sites) (service.nextRun host)).1) after)
    (launches : ∃ agenda cache, after.runs =
      (launch sites { service with agenda, cache } (service.nextRun host)).runs) :
    Accounted sites service move {service.nextRun host}
      ((service.desk.ask (service.deskClock sites) (service.nextRun host)).1.tidings
        (service.nextRun host)) after := by
  constructor
  case balance =>
    have asked := account_ask service.desk (service.deskClock sites) (service.nextRun host)
    rw [carries.awaiting, outFor_launchErrands]
    unfold awaiting
    rw [add_right_comm, ← asked]
    ac_rfl
  case single => exact Multiset.nodup_singleton _
  case unknown =>
    intro other member
    rw [Multiset.mem_singleton.mp member]
    exact Informs.run?_nextRun tracked host
  case tells =>
    obtain ⟨agenda, cache, runs⟩ := launches
    have launched := @tells_launch _ sites { service with agenda, cache } (service.nextRun host)
    have same := Tells.same runs
    rw [knowing_singleton]
    have both := launched.trans same
    rw [List.append_nil] at both
    exact both
  case reasons => exact fun _ _ heard => reason_of_direction heard
  case lookups => exact fun _ _ _ _ ended => nomatch event.symm.trans ended

/-- A login that is over hands on the run that logged in, and those that the desk attends to. -/
theorem accounted_logIn {user password : String}
    (event : service.eventOf? move = some (.ended id (.logIn user password) attempt outcome))
    (left : service.underWay = underWay { service with agenda } + {(id, .logIn user password)}) :
    ∃ tidings, Accounted sites service move 0 tidings
      (errandEnded sites { service with agenda } id (.logIn user password) outcome) := by
  let taken : CheckService σ := { service with agenda }
  let token := tokenOf (taken.deskClock sites)
    (Reputation.loginResult (sites.plan id.domain (.logIn user password)) outcome)
  refine ⟨_, .known ?_ (@tells_loginEnded _ sites taken id token) ?_ ?_⟩
  · rw [awaiting_of_left left, outFor_singleton rfl]
    exact (awaiting_loginEnded token).symm
  · intro other report heard
    rcases List.mem_append.mp heard with own | waited
    · exact reason_of_login own
    · obtain ⟨direction, -, member⟩ := List.mem_flatMap.mp waited
      exact reason_of_direction member
  · exact fun _ _ _ _ ended => nomatch event.symm.trans ended

/-- A lookup that is over is told to its run. -/
theorem accounted_lookup {token : String}
    (event : service.eventOf? move = some (.ended id (.lookup token) attempt outcome))
    (final : (sites.plan id.domain (.lookup token)).verdict attempt outcome = .final)
    (left : service.underWay = underWay { service with agenda } + {(id, .lookup token)}) :
    Accounted sites service move 0
      [(id, ReputationReport.ofResult ((sites.plan id.domain (.lookup token)).result outcome))]
      (errandEnded sites { service with agenda } id (.lookup token) outcome) := by
  let result := (sites.plan id.domain (.lookup token)).result outcome
  refine .known ?_ (@tells_lookupEnded _ { service with agenda } id result) ?_ ?_
  · rw [awaiting_of_left left, outFor_singleton rfl]
    exact congrArg (· + {id}) (awaiting_lookupEnded result).symm
  · intro other report heard
    cases List.mem_singleton.mp heard
    exact .lookedUp event final
  · intro other token' attempt' outcome' ended _
    cases event.symm.trans ended
    exact List.mem_singleton.mpr rfl

end Cases

/-- The account of every move balances. -/
theorem accounted (sites : CheckSites σ) (tracked : Tracked service) (move : Move) :
    ∃ fresh tidings, Accounted sites service move fresh tidings (service.perform sites move) := by
  have how := advanced sites service move
  generalize service.perform sites move = after at how ⊢
  cases how with
  | calm carries unended same =>
    refine ⟨0, [], .quiet ?_ (.same same) fun id token => unended id (.lookup token)⟩
    exact carries.awaiting.trans (add_zero _)
  | dropped drops =>
    subst drops
    exact ⟨0, [], .quiet rfl (.same rfl) nofun⟩
  | launched event carries launches => exact ⟨_, _, accounted_launch tracked event carries launches⟩
  | @completed id errand attempt outcome agenda event final left =>
    cases errand with
    | logIn user password =>
      obtain ⟨tidings, account⟩ := accounted_logIn event left
      exact ⟨0, tidings, account⟩
    | lookup token => exact ⟨0, _, accounted_lookup event final left⟩
    | availability | snapshots =>
      refine ⟨0, [], .quiet ?_ (@tells_heard _ sites { service with agenda } id _ rfl outcome)
        fun _ _ _ _ ended => nomatch event.symm.trans ended⟩
      rw [awaiting_of_left left, outFor_archive rfl, add_zero]
      exact @awaiting_heard _ sites { service with agenda } id _ rfl outcome

/-! ### Each run is told one time -/

/-- Every run that is still to be told stands in one place, and has been told nothing. -/
structure Awaited (service : CheckService σ) : Prop where
  tracked : Tracked service
  once : service.awaiting.Nodup
  untold : ∀ id ∈ service.awaiting, service.reputationOf? id = some none

section Accounted

variable {fresh : Multiset RunId} {tidings : Tidings} {report : Except Crash ReputationReport}

/-- Whoever is told something by a move is not to be told any more after it. -/
theorem Accounted.nodup (account : Accounted sites service move fresh tidings after)
    (awaited : Awaited service) : (after.awaiting + tidings.heard).Nodup := by
  rw [← account.balance]
  refine Multiset.nodup_add.mpr ⟨awaited.once, account.single, ?_⟩
  refine Multiset.disjoint_left.mpr fun {id} earlier added => ?_
  have known := awaited.untold id earlier
  unfold reputationOf? at known
  rw [account.unknown id added] at known
  cases known

theorem Accounted.knowing (account : Accounted sites service move fresh tidings after)
    (awaited : Awaited service) (stands : id ∈ after.awaiting + tidings.heard) :
    service.knowing fresh id = some none := by
  rw [← account.balance] at stands
  unfold CheckService.knowing
  rcases Multiset.mem_add.mp stands with earlier | added
  · rw [awaited.untold id earlier, Option.some_or]
  · have unknown : service.reputationOf? id = none := by
      unfold reputationOf?
      rw [account.unknown id added, Option.map_none]
    rw [unknown, if_pos added, Option.none_or]

/-- Whoever is told something by a move knows it after. -/
theorem Accounted.told (account : Accounted sites service move fresh tidings after)
    (awaited : Awaited service) (told : (id, report) ∈ tidings) :
    after.reputationOf? id = some (some report) := by
  have heard : id ∈ tidings.heard := Tidings.mem_heard.mpr ⟨report, told⟩
  have knew := account.knowing awaited (Multiset.mem_add.mpr (.inr heard))
  rcases account.tells id with ⟨unheard, -⟩ | ⟨report', told', knows⟩
  · exact absurd heard unheard
  · -- Nobody is told two things.
    have once := (Multiset.nodup_add.mp (account.nodup awaited)).2.1
    cases List.inj_on_of_nodup_map (Multiset.coe_nodup.mp once) told told' rfl
    rw [knows, knew, Option.map_some]

/-- What a run knows after a move it knew before, or the move has told it. -/
theorem Accounted.source (account : Accounted sites service move fresh tidings after)
    (knows : after.reputationOf? id = some (some report)) :
    service.reputationOf? id = some (some report) ∨ Reason sites service move id report := by
  rcases account.tells id with ⟨-, same⟩ | ⟨report', told, same⟩
  · rw [same] at knows
    rcases Option.or_eq_some_iff.mp knows with earlier | ⟨-, added⟩
    · exact .inl earlier
    · split at added <;> cases added
  · rw [same] at knows
    obtain ⟨-, -, rfl⟩ : ∃ knew, service.knowing fresh id = some knew ∧ report' = report := by
      simpa using knows
    exact .inr (account.reasons id report' told)

end Accounted

namespace Awaited

variable {report : Except Crash ReputationReport}

theorem new (server : σ) (credentials : Credentials) (lifetime : Measure) :
    Awaited (CheckService.new server credentials lifetime) where
  tracked := .new server credentials lifetime
  once := Multiset.nodup_zero
  untold _ member := absurd member (Multiset.notMem_zero _)

theorem perform (awaited : Awaited service) (move : Move) : Awaited (service.perform sites move) := by
  obtain ⟨fresh, tidings, account⟩ := accounted sites awaited.tracked move
  obtain ⟨once, -, apart⟩ := Multiset.nodup_add.mp (account.nodup awaited)
  refine ⟨awaited.tracked.perform move, once, fun id stands => ?_⟩
  rcases account.tells id with ⟨-, same⟩ | ⟨report, told, -⟩
  · exact same.trans (account.knowing awaited (Multiset.mem_add.mpr (.inl stands)))
  · exact absurd (Tidings.mem_heard.mpr ⟨report, told⟩) (Multiset.disjoint_left.mp apart stands)

theorem history (awaited : Awaited service) (moves : List Move) :
    Awaited (service.history sites moves) :=
  preserved_history (fun move holds => holds.perform move) awaited moves

/-- What a run has been told stands. -/
theorem reputation_perform (awaited : Awaited service) (move : Move)
    (knows : service.reputationOf? id = some (some report)) :
    (service.perform sites move).reputationOf? id = some (some report) := by
  obtain ⟨fresh, tidings, account⟩ := accounted sites awaited.tracked move
  have knew : service.knowing fresh id = some (some report) := by
    unfold CheckService.knowing
    rw [knows, Option.some_or]
  rcases account.tells id with ⟨-, same⟩ | ⟨other, told, -⟩
  · exact same.trans knew
  · have heard := Tidings.mem_heard.mpr ⟨other, told⟩
    cases knew.symm.trans (account.knowing awaited (Multiset.mem_add.mpr (.inr heard)))

theorem reputation_history (awaited : Awaited service) (moves : List Move)
    (knows : service.reputationOf? id = some (some report)) :
    (service.history sites moves).reputationOf? id = some (some report) := by
  induction moves generalizing service with
  | nil => exact knows
  | cons move moves ih => exact ih (awaited.perform move) (awaited.reputation_perform move knows)

/-- When a lookup has come out, its run knows what that comes to. -/
theorem reputation_of_cameOut (awaited : Awaited service) {token : String} {outcome : Outcome}
    (came : service.CameOut sites moves id (.lookup token) outcome) :
    (service.history sites moves).reputationOf? id = some (some
      (ReputationReport.ofResult ((sites.plan id.domain (.lookup token)).result outcome))) := by
  obtain ⟨earlier, move, later, attempt, rfl, event, final⟩ := came.exists_move
  have before : Awaited (service.history sites earlier) := awaited.history earlier
  obtain ⟨fresh, tidings, account⟩ := accounted sites before.tracked move
  rw [history_append]
  exact (before.perform move).reputation_history later
    (account.told before (account.lookups id token attempt outcome event final))

end Awaited

/-- What a run can come to know along a schedule. -/
inductive Learns (sites : CheckSites σ) (service : CheckService σ) (moves : List Move) (id : RunId) :
    Except Crash ReputationReport → Prop
  | tokenless (source : TokenSource) : Learns sites service moves id (.ok (.unsupported source))
  | refused (problem : Problem) : Learns sites service moves id (.ok (.failed problem.describe))
  | crashed (crash : Crash) : Learns sites service moves id (.error crash)
  | lookedUp {token : String} {outcome : Outcome}
      (came : service.CameOut sites moves id (.lookup token) outcome) :
      Learns sites service moves id
        (ReputationReport.ofResult ((sites.plan id.domain (.lookup token)).result outcome))

theorem Reason.learns {report : Except Crash ReputationReport}
    (reason : Reason sites service move id report) : Learns sites service (move :: moves) id report := by
  cases reason with
  | tokenless source => exact .tokenless source
  | refused problem => exact .refused problem
  | crashed crash => exact .crashed crash
  | lookedUp event final => exact .lookedUp (.now event final)

theorem Learns.later {report : Except Crash ReputationReport}
    (learns : Learns sites (service.perform sites move) moves id report) :
    Learns sites service (move :: moves) id report := by
  cases learns with
  | tokenless source => exact .tokenless source
  | refused problem => exact .refused problem
  | crashed crash => exact .crashed crash
  | lookedUp came => exact .lookedUp came.later

/-- What a run knows after a schedule it knew before, or it has come to know it along the schedule. -/
theorem Awaited.learns (awaited : Awaited service) {report : Except Crash ReputationReport}
    (knows : (service.history sites moves).reputationOf? id = some (some report)) :
    service.reputationOf? id = some (some report) ∨ Learns sites service moves id report := by
  induction moves generalizing service with
  | nil => exact .inl knows
  | cons move moves ih =>
    rcases ih (awaited.perform move) knows with next | learns
    · obtain ⟨fresh, tidings, account⟩ := accounted sites awaited.tracked move
      exact (account.source next).imp_right Reason.learns
    · exact .inr learns.later

end CheckService

end DomainScout
