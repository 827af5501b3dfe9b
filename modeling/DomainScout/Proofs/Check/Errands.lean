import DomainScout.Proofs.Access.Desk
import DomainScout.Proofs.Check.SingleFlight
import Mathlib.Algebra.Order.Group.Multiset

/-!
# Errands under way

An errand is under way from the moment a run is sent on it until its last attempt has ended. What
happens to a service is one of a few things: a run is launched, an errand is over, or all errands
stay under way. What runs know, and what the token desk stores, changes by the first two only.

Main statement: `advanced`.
-/
namespace DomainScout

open Remote

/-- The errand of an event, and the run it belongs to. -/
def CheckEvent.errand? : CheckEvent → Option (RunId × Errand)
  | .send id errand _ | .ended id errand _ _ => some (id, errand)
  | .arrive _ _ _ | .giveUp _ | .forget _ => none

/-- The errand on which a run is sent by what the desk tells it. -/
def Direction.errands (id : RunId) : Direction → Multiset (RunId × Errand)
  | .take grant =>
    match grant.token.filter (· ≠ "") with
    | some token => {(id, .lookup token)}
    | none => 0
  | .logIn user password => {(id, .logIn user password)}
  | .wait => 0

/-- The errands on which runs are sent by what the desk tells them. -/
def errandsOf (directions : List (RunId × Direction)) : Multiset (RunId × Errand) :=
  (directions.map fun told => told.2.errands told.1).sum

/-- A login or a lookup, but no errand to the archive, follows from what the desk tells. -/
theorem Direction.toArchive_eq_false {direction : Direction} {id : RunId} {pair : RunId × Errand}
    (member : pair ∈ direction.errands id) : pair.2.toArchive = false := by
  cases direction with
  | wait => cases Multiset.notMem_zero _ member
  | logIn => rw [Multiset.mem_singleton.mp member]; rfl
  | take grant =>
    unfold Direction.errands at member
    simp only at member
    split at member
    · rw [Multiset.mem_singleton.mp member]; rfl
    · cases Multiset.notMem_zero _ member

/-- A run is sent to look up its domain with a token that it was given. -/
theorem Direction.gives_of_lookup {direction : Direction} {id other : RunId} {token : String}
    {P : String → Prop} (gives : Desk.Gives P direction)
    (member : (other, .lookup token) ∈ direction.errands id) : P token := by
  cases direction with
  | wait => cases Multiset.notMem_zero _ member
  | logIn => cases Multiset.mem_singleton.mp member
  | take grant =>
    unfold Direction.errands at member
    simp only at member
    split at member
    next held given =>
      cases Multiset.mem_singleton.mp member
      exact gives token (Option.filter_eq_some_iff.mp given).1
    · cases Multiset.notMem_zero _ member

theorem errandsOf_append (first second : List (RunId × Direction)) :
    errandsOf (first ++ second) = errandsOf first + errandsOf second := by
  rw [errandsOf, List.map_append, List.sum_append]
  rfl

theorem errandsOf_cons (first : RunId × Direction) (rest : List (RunId × Direction)) :
    errandsOf (first :: rest) = first.2.errands first.1 + errandsOf rest := List.sum_cons

theorem mem_errandsOf {directions : List (RunId × Direction)} {pair : RunId × Errand} :
    pair ∈ errandsOf directions ↔ ∃ told ∈ directions, pair ∈ told.2.errands told.1 := by
  induction directions with
  | nil => simp [errandsOf]
  | cons first rest ih => rw [errandsOf_cons, Multiset.mem_add, ih, List.exists_mem_cons_iff]

/-- What is there on the right has its counterpart on the left. -/
theorem exists_of_rel {α β : Type} {related : α → β → Prop} {left : Option α} {right : Option β}
    {b : β} (rel : Option.Rel related left right) (found : right = some b) :
    ∃ a, left = some a ∧ related a b := by
  cases rel with
  | none => cases found
  | some holds =>
    cases found
    exact ⟨_, rfl, holds⟩

theorem exists_of_rel_left {α β : Type} {related : α → β → Prop} {left : Option α}
    {right : Option β} {a : α} (rel : Option.Rel related left right) (found : left = some a) :
    ∃ b, right = some b ∧ related a b := by
  cases rel with
  | none => cases found
  | some holds =>
    cases found
    exact ⟨_, rfl, holds⟩

namespace Run

/-- What both calls to the archive together come to, when both are over and none of them crashed. -/
def archive? (run : Run) : Option ArchiveReport :=
  match run.archiveCrash, run.availability, run.snapshots with
  | none, some availability, some snapshots =>
    some (.merge run.id.domain availability snapshots)
  | _, _, _ => none

theorem archive?_of_result? {run : Run} {report : Report}
    (complete : run.result? = some (.ok report)) : run.archive? = some report.archive := by
  unfold result? at complete
  unfold archive?
  split at complete
  · cases complete
  · cases complete
  next whole _ =>
    split at complete
    next availability snapshots =>
      cases complete
      rw [whole, availability, snapshots]
    · cases complete

/-- A run goes on, and may end, without a word from the archive. -/
structure GoesOn (run after : Run) : Prop where
  id : after.id = run.id
  availability : after.availability = run.availability
  snapshots : after.snapshots = run.snapshots
  archiveCrash : after.archiveCrash = run.archiveCrash
  outcome : ∀ report, after.outcome = some (.ok report) →
    run.outcome = some (.ok report) ∨ run.archive? = some report.archive

namespace GoesOn

theorem refl (run : Run) : GoesOn run run := ⟨rfl, rfl, rfl, rfl, fun _ ended => .inl ended⟩

theorem archive? {run after : Run} (goes : GoesOn run after) : after.archive? = run.archive? := by
  unfold Run.archive?
  rw [goes.id, goes.archiveCrash, goes.availability, goes.snapshots]

theorem trans {run middle after : Run} (first : GoesOn run middle) (second : GoesOn middle after) :
    GoesOn run after where
  id := second.id.trans first.id
  availability := second.availability.trans first.availability
  snapshots := second.snapshots.trans first.snapshots
  archiveCrash := second.archiveCrash.trans first.archiveCrash
  outcome report ended := by
    rcases second.outcome report ended with earlier | complete
    · exact first.outcome report earlier
    · exact .inr (first.archive? ▸ complete)

end GoesOn

end Run

namespace CheckService

variable {σ : Type} {sites : CheckSites σ} {service after : CheckService σ} {id : RunId}

/-- The errands that are under way, each as often as it is. -/
def underWay (service : CheckService σ) : Multiset (RunId × Errand) :=
  ↑(service.agenda.filterMap fun timed => timed.item.errand?)

/-! ### Agendas and errands -/

theorem underWay_enter (due : Nat) (event : CheckEvent) :
    (service.enter due event).underWay = service.underWay + ↑event.errand?.toList := by
  simp only [underWay, enter, Agenda.enter, List.filterMap_append, ← Multiset.coe_add,
    List.filterMap_cons, List.filterMap_nil]
  cases event.errand? <;> rfl

/-- The errand of an event is under way as long as the event is on the agenda. -/
theorem underWay_of_split {before rest : Agenda CheckEvent} {timed : Timed CheckEvent}
    (place : service.agenda = before ++ timed :: rest) :
    service.underWay =
      underWay { service with agenda := before ++ rest } + ↑timed.item.errand?.toList := by
  have one : (timed :: rest).filterMap (fun timed => timed.item.errand?) =
      timed.item.errand?.toList ++ rest.filterMap fun timed => timed.item.errand? := by
    cases event : timed.item.errand? <;> simp [event]
  simp only [underWay, place, List.filterMap_append, one, ← Multiset.coe_add]
  ac_rfl

theorem underWay_append {more : Agenda CheckEvent} (idle : ∀ timed ∈ more, timed.item.errand? = none) :
    underWay { service with agenda := service.agenda ++ more } = service.underWay := by
  have none : more.filterMap (fun timed => timed.item.errand?) = [] := List.filterMap_eq_nil_iff.mpr idle
  simp only [underWay, List.filterMap_append, none, List.append_nil]

/-- Those who give up are on no errand. -/
theorem filterMap_drop (agenda : Agenda CheckEvent) (callers : List Nat) :
    (agenda.drop (CheckEvent.isGiveUpOf callers)).filterMap (fun timed => timed.item.errand?) =
      agenda.filterMap fun timed => timed.item.errand? := by
  unfold Agenda.drop
  rw [List.filterMap_filter]
  congr 1
  funext timed
  cases timed.item <;> simp [CheckEvent.isGiveUpOf, CheckEvent.errand?]

theorem mem_underWay_of_event {move : Move} {errand : Errand} {attempt : Nat} {outcome : Outcome}
    (event : service.eventOf? move = some (.ended id errand attempt outcome)) :
    (id, errand) ∈ service.underWay := by
  cases move with
  | event place =>
    obtain ⟨timed, found, item⟩ := Option.map_eq_some_iff.mp event
    refine Multiset.mem_coe.mpr (List.mem_filterMap.mpr ⟨timed, List.mem_of_getElem? found, ?_⟩)
    rw [item]
    rfl
  | arrive | advance | clearCache | dropToken | ask => cases event

theorem run?_updateRun {change : Run → Run} (keeps : ∀ run, (change run).id = run.id)
    (other : RunId) :
    (service.updateRun id change).run? other =
      (service.run? other).map fun run => if run.id = id then change run else run := by
  simp only [run?, updateRun, List.find?_map]
  congr 2
  funext run
  simp only [Function.comp_apply]
  split
  · rw [keeps]
  · rfl

/-! ### What carries a service on -/

/-- A service has gone on: some more errands are under way, the desk is as it was, and no run has
heard from the archive. -/
structure Carries (service : CheckService σ) (more : Multiset (RunId × Errand))
    (after : CheckService σ) : Prop where
  desk : after.desk = service.desk
  underWay : after.underWay = service.underWay + more
  runs : ∀ id, Option.Rel Run.GoesOn (service.run? id) (after.run? id)

namespace Carries

theorem same (desk : after.desk = service.desk) (underWay : after.underWay = service.underWay)
    (runs : after.runs = service.runs) : Carries service 0 after := by
  refine ⟨desk, by rw [underWay, add_zero], fun id => ?_⟩
  have found : after.run? id = service.run? id := congrArg _ runs
  rw [found]
  cases service.run? id with
  | none => exact .none
  | some run => exact .some (.refl run)

theorem refl (service : CheckService σ) : Carries service 0 service := same rfl rfl rfl

theorem trans {middle : CheckService σ} {one other : Multiset (RunId × Errand)}
    (first : Carries service one middle) (second : Carries middle other after) :
    Carries service (one + other) after := by
  refine ⟨second.desk.trans first.desk, ?_, fun id => ?_⟩
  · rw [second.underWay, first.underWay, add_assoc]
  · have goes := first.runs id
    have goes' := second.runs id
    generalize service.run? id = run, middle.run? id = between, after.run? id = last at goes goes'
    cases goes with
    | none => cases goes'; exact .none
    | some one => cases goes' with | some other => exact .some (one.trans other)

theorem quiet {middle : CheckService σ} {more : Multiset (RunId × Errand)}
    (first : Carries service more middle) (second : Carries middle 0 after) :
    Carries service more after := by
  have both := first.trans second
  rwa [add_zero] at both

/-- What carries a service on does not depend on the rest of what it keeps. -/
theorem of_same {start : CheckService σ} {more : Multiset (RunId × Errand)}
    (carries : Carries service more after) (desk : start.desk = service.desk)
    (underWay : start.underWay = service.underWay) (runs : start.runs = service.runs) :
    Carries start more after := by
  have same : Carries start 0 service := .same desk.symm underWay.symm runs.symm
  have both := same.trans carries
  rwa [zero_add] at both

/-- What was taken from the agenda and put back is under way as before. -/
theorem back {agenda : Agenda CheckEvent} {more : Multiset (RunId × Errand)}
    (carries : Carries { service with agenda } more after)
    (left : service.underWay = CheckService.underWay { service with agenda } + more) :
    Carries service 0 after :=
  ⟨carries.desk, (carries.underWay.trans left.symm).trans (add_zero _).symm, carries.runs⟩

end Carries

@[simp] theorem runs_send {errand : Errand} {attempt : Nat} :
    (service.send sites id errand attempt).runs = service.runs := by
  obtain ⟨server, sent, due, outcome, eq⟩ := send_eq sites service id errand attempt
  rw [eq]

theorem carries_send (errand : Errand) (attempt : Nat) :
    Carries service {(id, errand)} (service.send sites id errand attempt) := by
  obtain ⟨server, sent, due, outcome, eq⟩ := send_eq sites service id errand attempt
  have quiet : Carries service 0 { service with server, sent } := .same rfl rfl rfl
  rw [eq]
  exact ⟨rfl, @underWay_enter _ { service with server, sent } due _, quiet.runs⟩

/-- A run that ends does so with what it has. -/
theorem carries_conclude (id : RunId) : Carries service 0 (service.conclude id) := by
  have ended := concluded service id
  generalize service.conclude id = outcome at ended ⊢
  cases ended with
  | left => exact .refl service
  | @finished run outcome found unfinished complete =>
    rw [finish_eq]
    refine ⟨rfl, ?_, fun other => ?_⟩
    · -- Only callers who would have given up leave the agenda.
      simp only [underWay, Agenda.enter, List.filterMap_append, filterMap_drop]
      rfl
    · have noted := @run?_updateRun _ service id
        (fun run => { run with outcome := some outcome }) (fun _ => rfl) other
      change Option.Rel _ _ (run? (service.updateRun id fun run =>
        { run with outcome := some outcome }) other)
      rw [noted]
      cases present : service.run? other with
      | none => exact .none
      | some earlier =>
        refine .some ?_
        simp only
        split
        next own =>
          -- The run of this name is the one that was found complete.
          have itself : earlier = run := by
            have name := (mem_of_run? present).2
            rw [← name, own, found] at present
            exact (Option.some.inj present).symm
          rw [itself]
          refine ⟨rfl, rfl, rfl, rfl, fun report ended => .inr ?_⟩
          rw [Option.some.inj ended] at complete
          exact Run.archive?_of_result? complete
        · exact .refl earlier

theorem carries_updateRun {change : Run → Run} (goes : ∀ run, Run.GoesOn run (change run)) :
    Carries service 0 (service.updateRun id change) := by
  refine ⟨rfl, (add_zero _).symm, fun other => ?_⟩
  rw [run?_updateRun fun run => (goes run).id]
  cases service.run? other with
  | none => exact .none
  | some run =>
    refine .some ?_
    simp only
    split
    · exact goes run
    · exact .refl run

theorem carries_settle {change : Run → Run} (goes : ∀ run, Run.GoesOn run (change run)) :
    Carries service 0 (service.settle id change) :=
  (carries_updateRun goes).quiet (carries_conclude id)

theorem carries_withReputation (report : Except Crash ReputationReport) :
    Carries service 0 (service.settle id (·.withReputation report)) :=
  carries_settle fun _ => ⟨rfl, rfl, rfl, rfl, fun _ ended => .inl ended⟩

theorem carries_follow (direction : Direction) :
    Carries service (direction.errands id) (service.follow sites id direction) := by
  cases direction with
  | wait => exact .refl service
  | logIn user password => exact carries_send _ 1
  | take grant =>
    unfold follow Direction.errands
    simp only
    cases grant.token.filter (· ≠ "") with
    | some token => exact carries_send (.lookup token) 1
    | none => exact carries_withReputation _

theorem carries_followAll (directions : List (RunId × Direction)) :
    Carries service (errandsOf directions) (service.followAll sites directions) := by
  induction directions generalizing service with
  | nil => exact .refl service
  | cons first rest ih =>
    rw [errandsOf_cons]
    exact (carries_follow first.2).trans ih

theorem carries_join {caller : Nat} {patience : Option Nat} :
    Carries service 0 (service.join caller id patience) := by
  have how := joined service caller id patience
  generalize service.join caller id patience = outcome at how ⊢
  cases how with
  | answered => exact .same rfl rfl rfl
  | @waits more _ only =>
    refine .same rfl (underWay_append fun timed member => ?_) rfl
    rw [only timed member]
    rfl

/-- The errands of a run that is launched: those to the archive, and what the desk tells it. -/
def launchErrands (id : RunId) (direction : Direction) : Multiset (RunId × Errand) :=
  direction.errands id + {(id, .availability)} + {(id, .snapshots)}

/-- Of the errands of a new run, all but the calls to the archive are what the desk sent it on. -/
theorem mem_errands_of_mem_launchErrands {direction : Direction} {pair : RunId × Errand}
    (launched : pair ∈ launchErrands id direction) (other : pair.2.toArchive = false) :
    pair ∈ direction.errands id := by
  rcases Multiset.mem_add.mp launched with told | listed
  · rcases Multiset.mem_add.mp told with told | available
    · exact told
    · cases Multiset.mem_singleton.mp available
      cases other
  · cases Multiset.mem_singleton.mp listed
    cases other

theorem carries_launch (id : RunId) :
    Carries { service with
        desk := (service.desk.ask (service.deskClock sites) id).2
        runs := service.runs ++ [Run.new id] }
      (launchErrands id (service.desk.ask (service.deskClock sites) id).1)
      (service.launch sites id) := by
  -- The launch boards the run as well, on which nothing here depends.
  let boarded : CheckService σ := { service with
    desk := (service.desk.ask (service.deskClock sites) id).2
    runs := service.runs ++ [Run.new id]
    flights := service.flights.board id }
  have followed : Carries boarded _ (boarded.follow sites id _) :=
    carries_follow (service.desk.ask (service.deskClock sites) id).1
  have launched : Carries boarded _ (service.launch sites id) :=
    (followed.trans (carries_send .availability 1)).trans (carries_send .snapshots 1)
  exact launched.of_same rfl rfl rfl

/-- What runs are told when a login has ended: the one that logged in takes its token, and those
that waited are told by the desk. -/
def afterLogin (id : RunId) (token : Option Token) (directions : List (RunId × Direction)) :
    List (RunId × Direction) :=
  (token.map fun token => (id, .take ⟨some token.text, .login⟩)).toList ++ directions

theorem carries_resume (token : Except CallError Token) :
    Carries service (errandsOf (afterLogin id token.toOption [])) (service.resume sites id token) := by
  unfold resume
  split
  next token =>
    have followed := @carries_follow _ sites service id (.take ⟨some token.text, .login⟩)
    rw [← add_zero (Direction.errands _ _)] at followed
    exact followed
  · exact carries_withReputation _
  · exact carries_withReputation _

theorem carries_loginEnded (token : Except CallError Token) :
    Carries
      { service with desk := (service.desk.loggedIn (service.deskClock sites) token.toOption).2 }
      (errandsOf (afterLogin id token.toOption
        (service.desk.loggedIn (service.deskClock sites) token.toOption).1))
      (service.loginEnded sites id token) := by
  -- The run that logged in is resumed first, and then all who waited for it follow.
  rw [afterLogin, errandsOf_append]
  have resumed := @carries_resume _ sites { service with
    desk := (service.desk.loggedIn (service.deskClock sites) token.toOption).2 } id token
  rw [afterLogin, List.append_nil] at resumed
  exact resumed.trans (carries_followAll _)

theorem carries_lookupEnded (result : Except CallError Response) :
    Carries
      { service with desk := if rejectsToken result then service.desk.invalidate else service.desk }
      0 (service.lookupEnded id result) := by
  unfold lookupEnded
  split
  · exact carries_withReputation _
  · exact carries_withReputation _

/-- A run hears of one call to the archive how it ended. -/
def hearing (plan : Plan) (outcome : Outcome) : Errand → Run → Run
  | .availability => (·.withAvailability (plan.result outcome))
  | .snapshots => (·.withSnapshots (plan.result outcome))
  | .logIn _ _ | .lookup _ => (·)

theorem carries_heard {errand : Errand} (archive : errand.toArchive = true) (outcome : Outcome) :
    Carries (service.updateRun id (hearing (sites.plan id.domain errand) outcome errand)) 0
      (service.errandEnded sites id errand outcome) := by
  cases errand with
  | logIn | lookup => cases archive
  | availability | snapshots => exact carries_conclude id

/-! ### What a move comes to -/

/-- The ways in which a move can end, as far as errands, the token desk and the archive go. -/
inductive Advanced (sites : CheckSites σ) (service : CheckService σ) (move : Move) :
    CheckService σ → Prop
  /-- All errands stay under way. -/
  | calm {after : CheckService σ} (carries : Carries service 0 after)
      (unended : ∀ id errand attempt outcome,
        service.eventOf? move = some (.ended id errand attempt outcome) →
        (sites.plan id.domain errand).verdict attempt outcome ≠ .final)
      (same : after.runs = service.runs) : Advanced sites service move after
  | dropped (drops : move = .dropToken) : Advanced sites service move service.dropToken
  | launched {caller : Nat} {domain : Value} {patience : Option Nat} {host : String}
      {after : CheckService σ}
      (event : service.eventOf? move = some (.arrive caller domain patience))
      (carries : Carries
        { service with
          desk := (service.desk.ask (service.deskClock sites) (service.nextRun host)).2
          runs := service.runs ++ [Run.new (service.nextRun host)] }
        (launchErrands (service.nextRun host)
          (service.desk.ask (service.deskClock sites) (service.nextRun host)).1) after)
      (launches : ∃ agenda cache, after.runs =
        (launch sites { service with agenda, cache } (service.nextRun host)).runs) :
      Advanced sites service move after
  /-- An errand is over. -/
  | completed {id : RunId} {errand : Errand} {attempt : Nat} {outcome : Outcome}
      {agenda : Agenda CheckEvent}
      (event : service.eventOf? move = some (.ended id errand attempt outcome))
      (final : (sites.plan id.domain errand).verdict attempt outcome = .final)
      (left : service.underWay = underWay { service with agenda } + {(id, errand)}) :
      Advanced sites service move (errandEnded sites { service with agenda } id errand outcome)

theorem advanced_arrive {move : Move} {agenda : Agenda CheckEvent} {caller : Nat} {domain : Value}
    {patience : Option Nat} (event : service.eventOf? move = some (.arrive caller domain patience))
    (same : underWay { service with agenda } = service.underWay) :
    Advanced sites service move (arrive sites { service with agenda } caller domain patience) := by
  have unended : ∀ id errand attempt outcome,
      service.eventOf? move = some (.ended id errand attempt outcome) →
      (sites.plan id.domain errand).verdict attempt outcome ≠ .final :=
    fun _ _ _ _ ended => nomatch event.symm.trans ended
  have answered : ∀ {cache : Cache Report} {result : Except CheckError Checked},
      Carries service 0 (answer { service with agenda, cache } caller result) :=
    .same rfl same rfl
  unfold arrive
  split
  · exact .calm answered unended rfl
  unfold attend
  split
  · exact .calm answered unended rfl
  next host reads =>
    simp only
    split
    · exact .calm answered unended rfl
    · -- Nothing is stored: the caller joins the run of the host, which may have to be launched.
      unfold share
      split
      · have taken : Carries service 0 { service with
            agenda, cache := (service.cache.get service.cacheClock host).2 } := .same rfl same rfl
        exact .calm (taken.quiet carries_join) unended runs_join
      · let looked : CheckService σ := { service with
          agenda, cache := (service.cache.get service.cacheClock host).2 }
        have launched := @carries_launch _ sites looked (looked.nextRun host)
        have joined : Carries (looked.launch sites (looked.nextRun host)) 0 _ :=
          @carries_join _ _ (looked.nextRun host) caller patience
        exact .launched event ((launched.quiet joined).of_same rfl same.symm rfl) ⟨_, _, runs_join⟩

theorem advanced (sites : CheckSites σ) (service : CheckService σ) (move : Move) :
    Advanced sites service move (service.perform sites move) := by
  cases move with
  | arrive caller domain patience => exact advanced_arrive rfl rfl
  | advance | clearCache =>
    refine .calm (.same rfl rfl rfl) (fun _ _ _ _ ended => ?_) rfl
    cases ended
  | dropToken => exact .dropped rfl
  | ask inquiries =>
    refine .calm (.same rfl (underWay_append fun timed member => ?_) rfl) (fun _ _ _ _ ended => ?_) rfl
    · obtain ⟨asked, -, rfl⟩ := List.mem_map.mp member
      rfl
    · cases ended
  | event place =>
    change Advanced sites service (.event place) (service.happen sites place)
    cases found : service.agenda[place]? with
    | none =>
      have nothing : service.eventOf? (.event place) = none := by
        simp only [eventOf?, found, Option.map_none]
      have same : service.happen sites place = service := by simp only [happen, found]
      rw [same]
      refine .calm (.refl service) (fun _ _ _ _ ended => ?_) rfl
      cases nothing.symm.trans ended
    | some timed =>
      -- What happens is taken from the agenda first; an errand of its own is missing from then on.
      obtain ⟨before, rest, place', without⟩ := agenda_split found
      have event : service.eventOf? (.event place) = some timed.item := by
        simp only [eventOf?, found, Option.map_some]
      have same : service.happen sites place =
          step sites { service with agenda := before ++ rest } timed.item := by
        simp only [happen, found, without]
      let taken : CheckService σ := { service with agenda := before ++ rest }
      have left := underWay_of_split place'
      rw [same]
      obtain ⟨due, item⟩ := timed
      cases item with
      | arrive caller domain patience =>
        exact advanced_arrive event (left.trans (add_zero _)).symm
      | giveUp caller | forget id =>
        refine .calm (.same rfl (left.trans (add_zero _)).symm rfl) (fun _ _ _ _ ended => ?_) rfl
        cases event.symm.trans ended
      | send id errand attempt =>
        have sent := @carries_send _ sites taken id errand attempt
        refine .calm (sent.back left) (fun _ _ _ _ ended => ?_) runs_send
        cases event.symm.trans ended
      | ended id errand attempt outcome =>
        change Advanced sites service (.event place)
          (taken.attemptEnded sites id errand attempt outcome)
        unfold attemptEnded
        split
        next wait retry =>
          -- The errand is tried again, so it stays under way.
          refine .calm ?_ ?_ rfl
          · have entered : Carries taken {(id, errand)}
                (taken.enter (taken.now + wait) (.send id errand (attempt + 1))) :=
              ⟨rfl, underWay_enter _ _, (Carries.refl taken).runs⟩
            exact entered.back left
          · intro id' errand' attempt' outcome' ended
            cases event.symm.trans ended
            rw [retry]
            intro same
            cases same
        next final => exact .completed event final left

/-! ### How errands come out -/

/-- Along a schedule an errand of a run came out so: this was the outcome of its last attempt. -/
def CameOut (sites : CheckSites σ) (service : CheckService σ) (moves : List Move) (id : RunId)
    (errand : Errand) (outcome : Outcome) : Prop :=
  ∃ attempt, .ended id errand attempt outcome ∈ service.happened sites moves ∧
    (sites.plan id.domain errand).verdict attempt outcome = .final

section CameOut

variable {move : Move} {moves : List Move} {errand : Errand} {outcome : Outcome}

theorem CameOut.now {attempt : Nat}
    (event : service.eventOf? move = some (.ended id errand attempt outcome))
    (final : (sites.plan id.domain errand).verdict attempt outcome = .final) :
    service.CameOut sites (move :: moves) id errand outcome :=
  ⟨attempt, List.mem_append_left _ (Option.mem_toList.mpr event), final⟩

theorem CameOut.later (came : (service.perform sites move).CameOut sites moves id errand outcome) :
    service.CameOut sites (move :: moves) id errand outcome := by
  obtain ⟨attempt, happens, final⟩ := came
  exact ⟨attempt, List.mem_append_right _ happens, final⟩

theorem CameOut.behind (earlier : List Move)
    (came : (service.history sites earlier).CameOut sites moves id errand outcome) :
    service.CameOut sites (earlier ++ moves) id errand outcome := by
  induction earlier generalizing service with
  | nil => exact came
  | cons move earlier ih => exact .later (ih came)

/-- An errand comes out by some move. -/
theorem CameOut.exists_move (came : service.CameOut sites moves id errand outcome) :
    ∃ earlier move later attempt, moves = earlier ++ move :: later ∧
      (service.history sites earlier).eventOf? move = some (.ended id errand attempt outcome) ∧
      (sites.plan id.domain errand).verdict attempt outcome = .final := by
  obtain ⟨attempt, happens, final⟩ := came
  obtain ⟨earlier, move, later, split, event⟩ := exists_move_of_happened happens
  exact ⟨earlier, move, later, attempt, split, event, final⟩

/-- An errand is under way until it comes out. -/
theorem underWay_perform (move : Move) (busy : (id, errand) ∈ service.underWay) :
    (id, errand) ∈ (service.perform sites move).underWay ∨
      ∃ attempt outcome, service.eventOf? move = some (.ended id errand attempt outcome) ∧
        (sites.plan id.domain errand).verdict attempt outcome = .final := by
  have how := advanced sites service move
  generalize service.perform sites move = after at how ⊢
  cases how with
  | calm carries =>
    rw [carries.underWay, add_zero]
    exact .inl busy
  | dropped => exact .inl busy
  | launched _ carries =>
    rw [carries.underWay]
    exact .inl (Multiset.mem_add.mpr (.inl busy))
  | @completed other errand' attempt outcome agenda event final left =>
    rw [left] at busy
    rcases Multiset.mem_add.mp busy with stays | ends
    · refine .inl ?_
      cases errand' with
      | logIn =>
        rw [errandEnded, (carries_loginEnded _).underWay]
        exact Multiset.mem_add.mpr (.inl stays)
      | lookup =>
        rw [errandEnded, (carries_lookupEnded _).underWay, add_zero]
        exact stays
      | availability | snapshots =>
        rw [(carries_heard rfl outcome).underWay, add_zero]
        exact stays
    · cases Multiset.mem_singleton.mp ends
      exact .inr ⟨attempt, outcome, event, final⟩

theorem underWay_history (moves : List Move) (busy : (id, errand) ∈ service.underWay) :
    (id, errand) ∈ (service.history sites moves).underWay ∨
      ∃ outcome, service.CameOut sites moves id errand outcome := by
  induction moves generalizing service with
  | nil => exact .inl busy
  | cons move moves ih =>
    rcases underWay_perform move busy with still | ⟨attempt, outcome, event, final⟩
    · exact (ih still).imp_right (Exists.imp fun _ came => came.later)
    · exact .inr ⟨outcome, .now event final⟩

end CameOut

end CheckService

end DomainScout
