import DomainScout.Proofs.Check.Work

/-!
# What becomes of every run

Whatever an unfinished run lacks is under way: an event of an errand is on the agenda, or the run
waits at the desk for somebody who logs in. So when the agenda is empty every run has ended, and
nobody waits.

Main statement: `settled_run`.
-/
namespace DomainScout

open Remote

/-- The parts of which a run is made. -/
inductive Part where
  | reputation
  | availability
  | snapshots
  deriving DecidableEq

/-- The part that an errand is for. -/
def Errand.part : Errand → Part
  | .logIn _ _ | .lookup _ => .reputation
  | .availability => .availability
  | .snapshots => .snapshots

/-- A run has a part, or the crash that takes its place. -/
def Run.Has (run : Run) : Part → Prop
  | .reputation => run.reputation.isSome
  | .availability => run.availability.isSome ∨ run.archiveCrash.isSome
  | .snapshots => run.snapshots.isSome ∨ run.archiveCrash.isSome

/-- A run that has every part has a result. -/
theorem Run.result?_ne_none {run : Run} (complete : ∀ part, run.Has part) : run.result? ≠ none := by
  obtain ⟨report, reported⟩ := Option.isSome_iff_exists.mp (complete .reputation)
  have available := complete .availability
  have listed := complete .snapshots
  unfold Run.Has at available listed
  unfold Run.result?
  cases report with
  | error crash => simp [reported]
  | ok report =>
    cases crashed : run.archiveCrash with
    | some crash => simp [reported]
    | none =>
      rw [crashed] at available listed
      obtain ⟨availability, one⟩ := Option.isSome_iff_exists.mp (available.resolve_right nofun)
      obtain ⟨snapshots, other⟩ := Option.isSome_iff_exists.mp (listed.resolve_right nofun)
      simp [reported, one, other]

/-- What is to be seen to: a part of a run, or that the one who logs in is done. -/
inductive Debt where
  | part (id : RunId) (part : Part)
  | login (id : RunId)

/-- What an errand sees to. -/
def Errand.debts (id : RunId) : Errand → List Debt
  | .logIn _ _ => [.part id .reputation, .login id]
  | errand => [.part id errand.part]

/-- What following a direction sees to. -/
def Direction.debts (id : RunId) : Direction → List Debt
  | .wait => []
  | .logIn user password => (Errand.logIn user password).debts id
  | .take _ => [.part id .reputation]

theorem Direction.reputation_mem_debts {direction : Direction} (attended : direction ≠ .wait)
    (id : RunId) : .part id .reputation ∈ direction.debts id := by
  cases direction with
  | wait => exact absurd rfl attended
  | logIn => exact List.mem_cons_self
  | take => exact List.mem_singleton.mpr rfl

/-- What an event sees to. -/
def CheckEvent.debts : CheckEvent → List Debt
  | .send id errand _ | .ended id errand _ _ => errand.debts id
  | _ => []

/-- A change of a run by which it gets a part and loses none. -/
structure Run.Gains (part : Part) (change : Run → Run) : Prop where
  gained (run : Run) : (change run).Has part
  kept {run : Run} {other : Part} : run.Has other → (change run).Has other

theorem gains_reputation (report : Except Crash ReputationReport) :
    Run.Gains .reputation (·.withReputation report) where
  gained _ := rfl
  kept {run other} has := by
    cases other with
    | reputation => rfl
    | availability | snapshots => exact has

theorem has_withArchiveCrash {run : Run} (crash : Crash) :
    (run.withArchiveCrash crash).archiveCrash.isSome := by
  unfold Run.withArchiveCrash
  cases run.archiveCrash <;> rfl

theorem has_of_withArchiveCrash {run : Run} {crash : Crash} {part : Part} (has : run.Has part) :
    (run.withArchiveCrash crash).Has part := by
  cases part with
  | reputation => exact has
  | availability | snapshots => exact .inr (has_withArchiveCrash crash)

theorem gains_availability (result : Except CallError Response) :
    Run.Gains .availability (·.withAvailability result) where
  gained run := by
    unfold Run.withAvailability
    split
    · exact .inl rfl
    · exact .inr (has_withArchiveCrash _)
  kept {run other} has := by
    unfold Run.withAvailability
    split
    · cases other with
      | availability => exact .inl rfl
      | reputation | snapshots => exact has
    · exact has_of_withArchiveCrash has

theorem gains_snapshots (result : Except CallError Response) :
    Run.Gains .snapshots (·.withSnapshots result) where
  gained run := by
    unfold Run.withSnapshots
    split
    · exact .inl rfl
    · exact .inr (has_withArchiveCrash _)
  kept {run other} has := by
    unfold Run.withSnapshots
    split
    · cases other with
      | snapshots => exact .inl rfl
      | reputation | availability => exact has
    · exact has_of_withArchiveCrash has

namespace CheckService

variable {σ : Type} {sites : CheckSites σ} {service after : CheckService σ} {id : RunId}

/-- Something is seen to by an event of the agenda, or by waiting at the desk. -/
def Due (service : CheckService σ) (debt : Debt) : Prop :=
  (∃ timed ∈ service.agenda, debt ∈ timed.item.debts) ∨
    ∃ id ∈ service.desk.waiting, debt = .part id .reputation

/-- Whatever unfinished runs lack is seen to, but for the given debts. -/
structure Cared (debts : List Debt) (service : CheckService σ) : Prop where
  parts : ∀ run ∈ service.runs, run.outcome = none → ∀ part,
    run.Has part ∨ .part run.id part ∈ debts ∨ service.Due (.part run.id part)
  incomplete : ∀ run ∈ service.runs, run.outcome = none → run.result? = none
  login : ∀ id, service.desk.busy = some id → .login id ∈ debts ∨ service.Due (.login id)
  staffed : service.desk.Staffed

namespace Cared

variable {debts rest : List Debt}

/-- Debts may be handed over between the list and the service. -/
theorem handOver {later : List Debt} (cared : Cared debts service) (runs : after.runs = service.runs)
    (busy : after.desk.busy = service.desk.busy) (waiting : after.desk.waiting = service.desk.waiting)
    (credentials : after.desk.credentials = service.desk.credentials)
    (kept : ∀ debt, debt ∈ debts ∨ service.Due debt → debt ∈ later ∨ after.Due debt) :
    Cared later after := by
  constructor
  · rw [runs]
    intro run member unfinished part
    exact (cared.parts run member unfinished part).imp_right (kept _)
  · rw [runs]
    exact cared.incomplete
  · rw [busy]
    exact fun id logsIn => kept _ (cared.login id logsIn)
  · refine ⟨?_, ?_⟩
    · rw [busy, waiting]
      exact cared.staffed.idle
    · rw [waiting, credentials]
      exact cared.staffed.named

theorem enter (due : Nat) {event : CheckEvent} (cared : Cared (event.debts ++ rest) service) :
    Cared rest (service.enter due event) := by
  refine cared.handOver rfl rfl rfl rfl ?_
  -- The event takes over its own debts; all others stay where they were.
  rintro debt (owed | ⟨timed, member, sees⟩ | waits)
  · rcases List.mem_append.mp owed with paid | owed
    · exact .inr (.inl ⟨_, List.mem_append_right _ (List.mem_singleton.mpr rfl), paid⟩)
    · exact .inl owed
  · exact .inr (.inl ⟨timed, List.mem_append_left _ member, sees⟩)
  · exact .inr (.inr waits)

theorem send {errand : Errand} {attempt : Nat} (cared : Cared (errand.debts id ++ rest) service) :
    Cared rest (service.send sites id errand attempt) := by
  obtain ⟨server, sent, due, outcome, eq⟩ := send_eq sites service id errand attempt
  have same : Cared (errand.debts id ++ rest) { service with server, sent } :=
    cared.handOver rfl rfl rfl rfl fun _ kept => kept
  have entered : Cared rest (CheckService.enter { service with server, sent } due
      (.ended id errand attempt outcome)) := same.enter due
  rw [eq]
  exact entered

theorem taken {before later : Agenda CheckEvent} {timed : Timed CheckEvent} (cared : Cared [] service)
    (place : service.agenda = before ++ timed :: later) :
    Cared timed.item.debts { service with agenda := before ++ later } := by
  refine cared.handOver rfl rfl rfl rfl ?_
  rintro debt (owed | ⟨other, member, sees⟩ | waits)
  · cases owed
  · rw [place] at member
    rcases List.mem_append.mp member with early | late
    · exact .inr (.inl ⟨other, List.mem_append_left _ early, sees⟩)
    rcases List.mem_cons.mp late with rfl | late
    · exact .inl sees
    · exact .inr (.inl ⟨other, List.mem_append_right _ late, sees⟩)
  · exact .inr (.inr waits)

/-- Nobody who gives up, and nobody who is answered, saw to anything. -/
theorem due_finish {debt : Debt} {outcome : Except Crash Report} (due : service.Due debt) :
    (service.finish id outcome).Due debt := by
  rw [finish_eq]
  rcases due with ⟨timed, member, sees⟩ | waits
  · refine .inl ⟨timed, List.mem_append_left _ (List.mem_filter.mpr ⟨member, ?_⟩), sees⟩
    cases event : timed.item with
    | giveUp =>
      rw [event] at sees
      cases sees
    | arrive | send | ended | forget => rfl
  · exact .inr waits

/-- What a run takes in is no longer lacking. -/
theorem parts_updateRun {part : Part} {change : Run → Run} (takesIn : Run.TakesIn change)
    (gains : Run.Gains part change) (cared : Cared (.part id part :: rest) service) :
    ∀ run ∈ (service.updateRun id change).runs, run.outcome = none → ∀ other,
      run.Has other ∨ .part run.id other ∈ rest ∨ service.Due (.part run.id other) := by
  intro run member unfinished other
  obtain ⟨earlier, known, rfl⟩ := mem_updateRun.mp member
  by_cases own : earlier.id = id
  · rw [if_pos own, takesIn.outcome] at unfinished
    rw [if_pos own, takesIn.id]
    rcases cared.parts earlier known unfinished other with has | owed | due
    · exact .inl (gains.kept has)
    · rcases List.mem_cons.mp owed with same | owed
      · cases same
        exact .inl (gains.gained earlier)
      · exact .inr (.inl owed)
    · exact .inr (.inr due)
  · rw [if_neg own] at unfinished ⊢
    rcases cared.parts earlier known unfinished other with has | owed | due
    · exact .inl has
    · rcases List.mem_cons.mp owed with same | owed
      · cases same
        exact absurd rfl own
      · exact .inr (.inl owed)
    · exact .inr (.inr due)

theorem settle {part : Part} {change : Run → Run} (takesIn : Run.TakesIn change)
    (gains : Run.Gains part change) (tracked : Tracked service)
    (cared : Cared (.part id part :: rest) service) : Cared rest (service.settle id change) := by
  have parts := parts_updateRun takesIn gains cared
  -- The part that is paid is no login, so whoever logs in is still seen to.
  have login : ∀ id, service.desk.busy = some id → .login id ∈ rest ∨ service.Due (.login id) := by
    intro client logsIn
    rcases cared.login client logsIn with owed | due
    · rcases List.mem_cons.mp owed with same | owed
      · cases same
      · exact .inl owed
    · exact .inr due
  have others : ∀ run ∈ (service.updateRun id change).runs, run.id ≠ id → run.outcome = none →
      run.result? = none := by
    intro run member differs unfinished
    obtain ⟨earlier, known, rfl⟩ := mem_updateRun.mp member
    by_cases own : earlier.id = id
    · rw [if_pos own, takesIn.id] at differs
      exact absurd own differs
    · rw [if_neg own] at unfinished ⊢
      exact cared.incomplete earlier known unfinished
  have ended := concluded (service.updateRun id change) id
  unfold CheckService.settle
  generalize (service.updateRun id change).conclude id = outcome at ended ⊢
  cases ended with
  | left waits =>
    refine ⟨parts, ?_, login, cared.staffed⟩
    intro run member unfinished
    by_cases own : run.id = id
    · -- Had the run everything, it would have ended.
      have found := (tracked.noted takesIn).run?_of_mem member
      rw [own] at found
      exact (waits run found).resolve_left fun ended => ended unfinished
    · exact others run member own unfinished
  | @finished ended outcome found open_ complete =>
    refine ⟨?_, ?_, ?_, ?_⟩
    · intro run member unfinished part
      obtain ⟨known, -⟩ := mem_runs_finish member unfinished
      exact (parts run known unfinished part).imp_right (.imp_right due_finish)
    · intro run member unfinished
      obtain ⟨known, differs⟩ := mem_runs_finish member unfinished
      exact others run known differs unfinished
    · intro client logsIn
      rw [finish_eq] at logsIn
      exact (login client logsIn).imp_right due_finish
    · rw [finish_eq]
      exact cared.staffed

theorem follow {direction : Direction} (tracked : Tracked service)
    (cared : Cared (direction.debts id ++ rest) service) :
    Cared rest (service.follow sites id direction) := by
  cases direction with
  | wait => exact cared
  | logIn user password => exact cared.send
  | take grant =>
    unfold CheckService.follow
    simp only
    split
    next token _ => exact @Cared.send _ _ _ _ _ (.lookup token) _ cared
    · refine cared.settle (takesIn_reputation ?_) ?_ tracked
      · intro told same
        cases same
        exact ReputationReport.telling_unsupported _
      · exact gains_reputation _

theorem followAll {directions : List (RunId × Direction)} (tracked : Tracked service)
    (cared : Cared (directions.flatMap (fun told => told.2.debts told.1) ++ rest) service) :
    Cared rest (service.followAll sites directions) := by
  induction directions generalizing service with
  | nil => exact cared
  | cons first others ih =>
    -- Each direction pays its own debts, which stand before those of the others.
    rw [List.flatMap_cons, List.append_assoc] at cared
    exact ih (tracked.changes (labours_follow _).changes) (cared.follow tracked)

/-- A new run lacks everything. It owes itself what it will ask the archive and what the desk tells
it to do; if it has to wait at the desk, that sees to its part on the reputation. -/
theorem board (cared : Cared [] service) (id : RunId) (clock : Int) :
    Cared ((service.desk.ask clock id).1.debts id ++ [.part id .availability, .part id .snapshots])
      { service with
        desk := (service.desk.ask clock id).2
        runs := service.runs ++ [Run.new id]
        flights := service.flights.board id } := by
  have due : ∀ debt, service.Due debt → Due { service with
      desk := (service.desk.ask clock id).2
      runs := service.runs ++ [Run.new id]
      flights := service.flights.board id } debt := by
    rintro debt (pending | ⟨client, waits, same⟩)
    · exact .inl pending
    · exact .inr ⟨client, Desk.mem_waiting_ask waits, same⟩
  refine ⟨?_, ?_, ?_, cared.staffed.ask _ _⟩
  · intro run member unfinished part
    rcases List.mem_append.mp member with known | added
    · rcases cared.parts run known unfinished part with has | owed | pending
      · exact .inl has
      · cases owed
      · exact .inr (.inr (due _ pending))
    · cases List.mem_singleton.mp added
      right
      cases part with
      | reputation =>
        rcases service.desk.waits_or_attended clock id with waits | attended
        · exact .inr (.inr ⟨id, waits, rfl⟩)
        · exact .inl (List.mem_append_left _ (Direction.reputation_mem_debts attended id))
      | availability | snapshots =>
        left
        apply List.mem_append_right
        simp [Run.new]
  · intro run member unfinished
    rcases List.mem_append.mp member with known | added
    · exact cared.incomplete run known unfinished
    · cases List.mem_singleton.mp added
      rfl
  · intro client logsIn
    rcases Desk.busy_ask logsIn with before | ⟨rfl, user, password, told⟩
    · rcases cared.login client before with owed | pending
      · cases owed
      · exact .inr (due _ pending)
    · left
      apply List.mem_append_left
      rw [told]
      exact List.mem_cons_of_mem _ (List.mem_singleton.mpr rfl)

theorem launch {host : String} (unknown : service.flights.run? host = none)
    (tracked : Tracked service) (cared : Cared [] service) :
    Cared [] (service.launch sites (service.nextRun host)) := by
  let id := service.nextRun host
  let outcome := service.desk.ask (service.deskClock sites) id
  let boarded := { service with
    desk := outcome.2, runs := service.runs ++ [Run.new id], flights := service.flights.board id }
  have tracked' : Tracked boarded :=
    (tracked.launched unknown).same rfl rfl rfl rfl
  have cared' : Cared (outcome.1.debts id ++ [.part id .availability, .part id .snapshots]) boarded :=
    cared.board id _
  have served : Cared [.part id .availability, .part id .snapshots]
      (boarded.follow sites id outcome.1) := cared'.follow tracked'
  have first : Cared [.part id .snapshots]
      ((boarded.follow sites id outcome.1).send sites id .availability 1) := served.send
  exact first.send

theorem resume (tracked : Tracked service) (cared : Cared (.part id .reputation :: rest) service)
    (token : Except CallError Token) : Cared rest (service.resume sites id token) := by
  unfold CheckService.resume
  split
  next token => exact @Cared.follow _ _ _ _ _ (.take ⟨some token.text, .login⟩) tracked cared
  next problem =>
    refine cared.settle (takesIn_reputation ?_) (gains_reputation _) tracked
    intro told same
    cases same
    exact ReputationReport.telling_failed problem.describe_ne_empty
  · exact cared.settle (takesIn_reputation nofun) (gains_reputation _) tracked

/-- When a login has ended, its run goes on, and so do all that no longer wait at the desk. -/
theorem loginEnded {user password : String} (tracked : Tracked service)
    (cared : Cared ((Errand.logIn user password).debts id) service) (token : Except CallError Token) :
    Cared [] (service.loginEnded sites id token) := by
  let outcome := service.desk.loggedIn (service.deskClock sites) token.toOption
  have told : Desk.Told (service.desk.close token.toOption) outcome := Desk.told_loggedIn _ _ _
  have queue : service.desk.waiting = outcome.1.map Prod.fst ++ outcome.2.waiting := told.queue
  let directed := outcome.1.flatMap fun told => told.2.debts told.1
  -- Who waited was told something, which sees to the run from now on, or still waits.
  have kept : ∀ run part, .part run part ∈ (Errand.logIn user password).debts id ∨
      service.Due (.part run part) → .part run part ∈ Debt.part id .reputation :: directed ∨
        Due { service with desk := outcome.2 } (.part run part) := by
    rintro run part (owed | pending | ⟨client, waits, same⟩)
    · rcases List.mem_cons.mp owed with same | other
      · exact .inl (same ▸ List.mem_cons_self)
      · cases List.mem_singleton.mp other
    · exact .inr (.inl pending)
    · cases same
      rw [queue] at waits
      rcases List.mem_append.mp waits with gone | stays
      · obtain ⟨⟨_, direction⟩, member, rfl⟩ := List.mem_map.mp gone
        refine .inl (List.mem_cons_of_mem _ (List.mem_flatMap.mpr ⟨_, member, ?_⟩))
        exact direction.reputation_mem_debts (told.attended _ member) _
      · exact .inr (.inr ⟨run, stays, rfl⟩)
  have opened : Cared (.part id .reputation :: directed) { service with desk := outcome.2 } := by
    refine ⟨?_, cared.incomplete, ?_, cared.staffed.loggedIn _ _⟩
    · intro run member unfinished part
      exact (cared.parts run member unfinished part).imp_right (kept _ _)
    · intro client logsIn
      obtain ⟨user, password, member⟩ := told.logsIn client logsIn
      refine .inl (List.mem_cons_of_mem _ (List.mem_flatMap.mpr ⟨_, member, ?_⟩))
      exact List.mem_cons_of_mem _ (List.mem_singleton.mpr rfl)
  have tracked' : Tracked { service with desk := outcome.2 } := tracked.changes (labours_desk _).changes
  have resumed : Cared (directed ++ [])
      (CheckService.resume sites { service with desk := outcome.2 } id token) := by
    rw [List.append_nil]
    exact opened.resume tracked' token
  exact resumed.followAll (tracked'.changes (labours_resume token).changes)

/-- The end of an attempt sees to what its errand was for. -/
theorem attemptEnded {errand : Errand} {attempt : Nat} (tracked : Tracked service)
    (cared : Cared (errand.debts id) service) (outcome : Outcome) :
    Cared [] (service.attemptEnded sites id errand attempt outcome) := by
  unfold CheckService.attemptEnded
  split
  next wait _ =>
    have owed : Cared ((CheckEvent.send id errand (attempt + 1)).debts ++ []) service := by
      rw [List.append_nil]
      exact cared
    exact owed.enter _
  · cases errand with
    | logIn user password => exact cared.loginEnded tracked _
    | lookup token =>
      change Cared [] (service.lookupEnded id _)
      unfold lookupEnded
      have takesIn : ∀ result, Run.TakesIn (·.withReputation (ReputationReport.ofResult result)) :=
        fun _ => takesIn_reputation fun _ told => ReputationReport.telling_ofResult told
      have dropped : Cared [.part id .reputation] service.dropToken :=
        cared.handOver rfl rfl rfl rfl fun _ kept => kept
      simp only
      split
      · exact dropped.settle (takesIn _) (gains_reputation _) (tracked.changes (labours_desk _).changes)
      · exact Cared.settle (takesIn _) (gains_reputation _) tracked cared
    | availability =>
      exact Cared.settle (takesIn_availability _) (gains_availability _) tracked cared
    | snapshots => exact Cared.settle (takesIn_snapshots _) (gains_snapshots _) tracked cared

theorem join {caller : Nat} {patience : Option Nat} (cared : Cared [] service) :
    Cared [] (service.join caller id patience) := by
  have how := CheckService.joined service caller id patience
  generalize service.join caller id patience = outcome at how ⊢
  cases how with
  | answered => exact cared.handOver rfl rfl rfl rfl fun _ kept => kept
  | waits =>
    refine cared.handOver rfl rfl rfl rfl ?_
    rintro debt (owed | ⟨timed, member, sees⟩ | waits)
    · exact .inl owed
    · exact .inr (.inl ⟨timed, List.mem_append_left _ member, sees⟩)
    · exact .inr (.inr waits)

theorem arrive (tracked : Tracked service) (cared : Cared [] service) (caller : Nat) (domain : Value)
    (patience : Option Nat) : Cared [] (service.arrive sites caller domain patience) := by
  have quiet : ∀ {after : CheckService σ}, after.runs = service.runs → after.desk = service.desk →
      after.agenda = service.agenda → Cared [] after := by
    intro after runs desk agenda
    refine cared.handOver runs (desk ▸ rfl) (desk ▸ rfl) (desk ▸ rfl) ?_
    unfold Due
    rw [desk, agenda]
    exact fun _ kept => kept
  unfold CheckService.arrive
  split
  · exact quiet rfl rfl rfl
  · unfold attend
    split
    · exact quiet rfl rfl rfl
    next host _ =>
      simp only
      split
      · exact quiet rfl rfl rfl
      · let looked : CheckService σ :=
          { service with cache := (service.cache.get service.cacheClock host).2 }
        have tracked' : Tracked looked := tracked.same rfl rfl rfl rfl
        have cared' : Cared [] looked := quiet rfl rfl rfl
        change Cared [] (looked.share sites caller host patience)
        unfold share
        split
        · exact cared'.join
        next unknown => exact (cared'.launch unknown tracked').join

theorem step {event : CheckEvent} (tracked : Tracked service) (cared : Cared event.debts service) :
    Cared [] (service.step sites event) := by
  cases event with
  | arrive caller domain patience => exact cared.arrive tracked caller domain patience
  | giveUp caller => exact cared.handOver rfl rfl rfl rfl fun _ kept => kept
  | send id errand attempt =>
    have owed : Cared (errand.debts id ++ []) service := by
      rw [List.append_nil]
      exact cared
    exact owed.send
  | ended id errand attempt outcome => exact cared.attemptEnded tracked outcome
  | forget id => exact cared.handOver rfl rfl rfl rfl fun _ kept => kept

theorem perform (tracked : Tracked service) (cared : Cared [] service) (move : Move) :
    Cared [] (service.perform sites move) := by
  cases move with
  | arrive caller domain patience => exact cared.arrive tracked caller domain patience
  | advance | clearCache | dropToken => exact cared.handOver rfl rfl rfl rfl fun _ kept => kept
  | ask inquiries =>
    refine cared.handOver rfl rfl rfl rfl ?_
    rintro debt (owed | ⟨timed, member, sees⟩ | waits)
    · exact .inl owed
    · exact .inr (.inl ⟨timed, List.mem_append_left _ member, sees⟩)
    · exact .inr (.inr waits)
  | event place =>
    change Cared [] (service.happen sites place)
    unfold happen
    split
    · exact cared
    next timed here =>
      obtain ⟨before, later, agenda, erased⟩ := agenda_split here
      have taken := cared.taken agenda
      rw [erased]
      obtain ⟨due, item⟩ := timed
      cases item with
      | forget id => exact taken.handOver rfl rfl rfl rfl fun _ kept => kept
      | arrive | giveUp | send | ended => exact taken.step (tracked.changed (.taken agenda nofun))

theorem new (server : σ) (credentials : Credentials) (lifetime : Measure) :
    Cared [] (CheckService.new server credentials lifetime) where
  parts _ member := nomatch member
  incomplete _ member := nomatch member
  login _ busy := nomatch busy
  staffed := ⟨fun _ => rfl, fun waiting => absurd rfl waiting⟩

end Cared

/-- Between events, everything that unfinished runs lack is under way. -/
theorem cared_history (sites : CheckSites σ) (server : σ) (credentials : Credentials)
    (lifetime : Measure) (moves : List Move) :
    Cared [] ((CheckService.new server credentials lifetime).history sites moves) := by
  let state := (CheckService.new server credentials lifetime).history sites moves
  have both : Tracked state ∧ Cared [] state :=
    preserved_history (P := fun service : CheckService σ => Tracked service ∧ Cared [] service)
      (fun move holds => ⟨holds.1.perform move, holds.2.perform holds.1 move⟩)
      ⟨.new server credentials lifetime, .new server credentials lifetime⟩ moves
  exact both.2

/-- A service that has nothing to do. -/
structure Settled (service : CheckService σ) : Prop where
  agenda : service.agenda = []
  finished : ∀ run ∈ service.runs, run.outcome ≠ none
  flights : service.flights = []
  waiters : service.waiters = []
  queue : service.desk.waiting = []

/-- A service with an empty agenda has nothing to do: no run is stuck, and nobody waits. -/
theorem settled_of_agenda (tracked : Tracked service) (cared : Cared [] service)
    (empty : service.agenda = []) : Settled service := by
  have nothing : ∀ debt, service.desk.waiting = [] → ¬ service.Due debt := by
    rintro debt queue (⟨timed, member, -⟩ | ⟨client, waits, -⟩)
    · rw [empty] at member
      cases member
    · rw [queue] at waits
      cases waits
  have queue : service.desk.waiting = [] := by
    cases busy : service.desk.busy with
    | none => exact cared.staffed.idle busy
    | some client =>
      -- Whoever logs in has an event that says so, but there are no events.
      rcases cared.login client busy with owed | ⟨timed, member, -⟩ | ⟨_, _, same⟩
      · cases owed
      · rw [empty] at member
        cases member
      · cases same
  have finished : ∀ run ∈ service.runs, run.outcome ≠ none := by
    -- An unfinished run lacks a part, and nothing is left that could see to it.
    intro run member unfinished
    refine Run.result?_ne_none (fun part => ?_) (cared.incomplete run member unfinished)
    refine (cared.parts run member unfinished part).resolve_right ?_
    rintro (owed | due)
    · cases owed
    · exact nothing _ queue due
  refine ⟨empty, finished, ?_, ?_, queue⟩
  · refine tracked.flights_eq_nil finished fun id forgets => ?_
    rw [Forgets, empty] at forgets
    cases forgets
  · refine List.eq_nil_iff_forall_not_mem.mpr fun waiter waits => ?_
    obtain ⟨run, member, -, unfinished⟩ := tracked.waiting waiter waits
    exact finished run member unfinished

/-- Running a service to the end leaves it with nothing to do. -/
theorem settled_run (sites : CheckSites σ) (server : σ) (credentials : Credentials)
    (lifetime : Measure) (moves : List Move) :
    Settled (((CheckService.new server credentials lifetime).history sites moves).run sites) := by
  obtain ⟨rest, -, runs⟩ := exists_history_run sites
    ((CheckService.new server credentials lifetime).history sites moves)
  have empty : (run sites ((CheckService.new server credentials lifetime).history sites moves)).agenda =
      [] := agenda_run (prompt_history sites server credentials lifetime moves)
  rw [← runs, ← history_append] at empty ⊢
  exact settled_of_agenda (tracked_history ..) (cared_history ..) empty

end CheckService

end DomainScout
