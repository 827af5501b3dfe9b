import DomainScout.Proofs.Check.Errands
import DomainScout.Proofs.Check.Resilience

/-!
# When the archive is out of order

A run makes two calls to the archive, each of them once, and keeps what it hears. When both calls
have failed, its report tells an error only if none of them was answered at all. An answer without
success counts like the news that there are no snapshots.

Main statement: `error_iff_unanswered`.
-/
namespace DomainScout

open Remote

namespace Remote

/-- A call has failed: by a fault, for lack of time, or with an answer that tells no success. -/
def Outcome.Fails : Outcome → Prop
  | .ended (.answered response) => response.isSuccess = false
  | .ended (.failed _ _) | .overdue => True
  | .ended (.crashed _) => False

/-- No answer came to a call. -/
def Outcome.Unanswered : Outcome → Prop
  | .ended (.failed _ _) | .overdue => True
  | .ended (.answered _) | .ended (.crashed _) => False

instance : DecidablePred Outcome.Fails
  | .ended (.answered response) => inferInstanceAs (Decidable (response.isSuccess = false))
  | .ended (.failed _ _) | .overdue => isTrue trivial
  | .ended (.crashed _) => isFalse id

instance : DecidablePred Outcome.Unanswered
  | .ended (.failed _ _) | .overdue => isTrue trivial
  | .ended (.answered _) | .ended (.crashed _) => isFalse id

theorem Archive.objectOf?_eq_none {response : Response} (fails : response.isSuccess = false) :
    Archive.objectOf? response = none := by
  unfold Archive.objectOf?
  rw [fails]
  rfl

theorem Archive.listOf?_eq_none {response : Response} (fails : response.isSuccess = false) :
    Archive.listOf? response = none := by
  unfold Archive.listOf?
  rw [fails]
  rfl

end Remote

namespace ArchiveReport

/-- What a failed call comes to holds no value, and is a problem if no answer came. -/
structure Void {α : Type} (outcome : Outcome) (part : Part α) : Prop where
  value : valueOf? part = none
  problem : (∃ problem, part = .error problem) ↔ outcome.Unanswered

theorem partOf_of_fails {α : Type} {read : Response → Option α} {outcome : Outcome}
    (unread : ∀ response, response.isSuccess = false → read response = none) (fails : outcome.Fails)
    (plan : Plan) : ∃ part, partOf read (plan.result outcome) = .ok part ∧ Void outcome part := by
  cases outcome with
  | overdue => exact ⟨.error _, rfl, rfl, fun _ => trivial, fun _ => ⟨_, rfl⟩⟩
  | ended ending =>
    cases ending with
    | failed => exact ⟨.error _, rfl, rfl, fun _ => trivial, fun _ => ⟨_, rfl⟩⟩
    | crashed => exact fails.elim
    | answered response =>
      exact ⟨.ok (read response), rfl, unread response fails,
        (nomatch ·.choose_spec), False.elim⟩

/-- What is told when both calls have failed: no snapshots, and an error if no call was answered. -/
theorem merge_of_void {first second : Outcome} {availability : Part Fields}
    {rows : Part (List Value)} (one : Void first availability) (other : Void second rows)
    (domain : String) :
    (merge domain availability rows).hasSnapshots = false ∧
      ((merge domain availability rows).error ≠ none ↔ first.Unanswered ∧ second.Unanswered) := by
  rw [← one.problem, ← other.problem]
  have nothing := one.value
  cases availability with
  | ok value =>
    cases nothing
    exact ⟨rfl, fun told => absurd rfl told, fun problems => nomatch problems.1⟩
  | error problem =>
    cases rows with
    | error problem' =>
      exact ⟨rfl, fun _ => ⟨⟨_, rfl⟩, _, rfl⟩, fun _ => Option.some_ne_none _⟩
    | ok value => exact ⟨rfl, fun told => absurd rfl told, fun problems => nomatch problems.2⟩

end ArchiveReport

namespace Run

/-- A run has heard how a call to the archive came out. -/
def heardOf (run : Run) : Errand → Bool
  | .availability => run.availability.isSome
  | .snapshots => run.snapshots.isSome
  | .logIn _ _ | .lookup _ => false

/-- What a run has heard from the archive it does not hear otherwise. -/
structure Keeps (run after : Run) : Prop where
  availability : ∀ part, run.availability = some part → after.availability = some part
  snapshots : ∀ part, run.snapshots = some part → after.snapshots = some part

theorem Keeps.trans {run middle after : Run} (first : Keeps run middle) (second : Keeps middle after) :
    Keeps run after :=
  ⟨fun part heard => second.availability part (first.availability part heard),
    fun part heard => second.snapshots part (first.snapshots part heard)⟩

theorem GoesOn.keeps {run after : Run} (goes : GoesOn run after) : Keeps run after :=
  ⟨fun _ heard => goes.availability.trans heard, fun _ heard => goes.snapshots.trans heard⟩

theorem GoesOn.heardOf {run after : Run} (goes : GoesOn run after) : after.heardOf = run.heardOf := by
  funext errand
  cases errand with
  | availability => exact congrArg Option.isSome goes.availability
  | snapshots => exact congrArg Option.isSome goes.snapshots
  | logIn | lookup => rfl

end Run

/-- The ways in which a run can hear of a call to the archive. -/
inductive Run.Hears (run : Run) : Errand → Run → Prop
  | availability (part : ArchiveReport.Part Fields) :
      Hears run .availability { run with availability := some part }
  | snapshots (part : ArchiveReport.Part (List Value)) :
      Hears run .snapshots { run with snapshots := some part }
  /-- The call has crashed. -/
  | crash {errand : Errand} (crash : Crash) : Hears run errand (run.withArchiveCrash crash)

namespace Run.Hears

variable {run after : Run} {errand : Errand}

theorem of_hearing (archive : errand.toArchive = true) (plan : Plan) (outcome : Outcome) (run : Run) :
    Hears run errand (CheckService.hearing plan outcome errand run) := by
  cases errand with
  | logIn | lookup => cases archive
  | availability =>
    change Hears run .availability (run.withAvailability (plan.result outcome))
    unfold withAvailability
    split
    · exact .availability _
    · exact .crash _
  | snapshots =>
    change Hears run .snapshots (run.withSnapshots (plan.result outcome))
    unfold withSnapshots
    split
    · exact .snapshots _
    · exact .crash _

theorem id_eq (hears : Hears run errand after) : after.id = run.id := by
  cases hears <;> rfl

theorem outcome_eq (hears : Hears run errand after) : after.outcome = run.outcome := by
  cases hears <;> rfl

theorem heardOf_of_ne (hears : Hears run errand after) {other : Errand} (differs : other ≠ errand) :
    after.heardOf other = run.heardOf other := by
  cases hears with
  | crash => cases other <;> rfl
  | availability | snapshots =>
    cases other with
    | availability | snapshots => first | rfl | exact absurd rfl differs
    | logIn | lookup => rfl

/-- A run hears how a call came out, or takes in its crash. -/
theorem heardOf_or_archiveCrash (hears : Hears run errand after) :
    after.heardOf errand = run.heardOf errand ∨ after.archiveCrash = run.archiveCrash := by
  cases hears with
  | availability | snapshots => exact .inr rfl
  | crash => exact .inl (by cases errand <;> rfl)

theorem keeps (hears : Hears run errand after) (unheard : run.heardOf errand = false) :
    Keeps run after := by
  -- What is written was not there before; the other call's part is not touched.
  cases hears with
  | crash => exact ⟨fun _ heard => heard, fun _ heard => heard⟩
  | availability =>
    refine ⟨fun part heard => ?_, fun _ heard => heard⟩
    rw [heardOf, heard] at unheard
    cases unheard
  | snapshots =>
    refine ⟨fun _ heard => heard, fun part heard => ?_⟩
    rw [heardOf, heard] at unheard
    cases unheard

end Run.Hears

/-- Who knows what both calls come to has heard of each. -/
theorem Run.heardOf_of_archive? {run : Run} {report : ArchiveReport} (told : run.archive? = some report)
    {errand : Errand} (archive : errand.toArchive = true) : run.heardOf errand = true := by
  unfold Run.archive? at told
  split at told
  next available listed =>
    cases errand with
    | logIn | lookup => cases archive
    | availability => exact Option.isSome_of_eq_some available
    | snapshots => exact Option.isSome_of_eq_some listed
  · cases told

namespace CheckService

variable {σ : Type} {sites : CheckSites σ} {service after : CheckService σ} {id : RunId} {move : Move}

/-! ### Calls to the archive -/

/-- The calls to the archive that are under way. -/
def calls (service : CheckService σ) : Multiset (RunId × Errand) :=
  service.underWay.filter (·.2.toArchive = true)

theorem filter_errands {direction : Direction} :
    (direction.errands id).filter (·.2.toArchive = true) = 0 := by
  refine Multiset.filter_eq_nil.mpr fun pair member archive => ?_
  cases (Direction.toArchive_eq_false member).symm.trans archive

theorem filter_errandsOf {directions : List (RunId × Direction)} :
    (errandsOf directions).filter (·.2.toArchive = true) = 0 := by
  refine Multiset.filter_eq_nil.mpr fun pair member archive => ?_
  obtain ⟨told, -, carried⟩ := mem_errandsOf.mp member
  cases (Direction.toArchive_eq_false carried).symm.trans archive

theorem filter_launchErrands {direction : Direction} :
    (launchErrands id direction).filter (·.2.toArchive = true) =
      {(id, .availability), (id, .snapshots)} := by
  unfold launchErrands
  rw [Multiset.filter_add, Multiset.filter_add, filter_errands, zero_add]
  rfl

theorem Carries.calls {more : Multiset (RunId × Errand)} (carries : Carries service more after) :
    after.calls = service.calls + more.filter (·.2.toArchive = true) := by
  unfold CheckService.calls
  rw [carries.underWay, Multiset.filter_add]

theorem Carries.calls_eq {more : Multiset (RunId × Errand)} (carries : Carries service more after)
    (none : more.filter (·.2.toArchive = true) = 0) : after.calls = service.calls := by
  rw [carries.calls, none, add_zero]

/-- The ways in which a move can end, as far as calls to the archive go. -/
inductive Called (sites : CheckSites σ) (service : CheckService σ) (move : Move)
    (after : CheckService σ) : Prop
  | quiet (calls : after.calls = service.calls)
      (runs : ∀ id, Option.Rel Run.GoesOn (service.run? id) (after.run? id))
      (unended : ∀ id errand attempt outcome, errand.toArchive = true →
        service.eventOf? move = some (.ended id errand attempt outcome) →
        (sites.plan id.domain errand).verdict attempt outcome ≠ .final)
  | launched {caller : Nat} {domain : Value} {patience : Option Nat} {host : String}
      (event : service.eventOf? move = some (.arrive caller domain patience))
      (calls : after.calls = service.calls +
        {(service.nextRun host, .availability), (service.nextRun host, .snapshots)})
      (runs : ∀ id, Option.Rel Run.GoesOn
        (run? { service with runs := service.runs ++ [Run.new (service.nextRun host)] } id)
        (after.run? id))
  | heard {id : RunId} {errand : Errand} {attempt : Nat} {outcome : Outcome}
      (archive : errand.toArchive = true)
      (event : service.eventOf? move = some (.ended id errand attempt outcome))
      (calls : service.calls = after.calls + {(id, errand)})
      (runs : ∀ other, Option.Rel Run.GoesOn
        ((service.updateRun id (hearing (sites.plan id.domain errand) outcome errand)).run? other)
        (after.run? other))

theorem called (sites : CheckSites σ) (service : CheckService σ) (move : Move) :
    Called sites service move (service.perform sites move) := by
  have how := advanced sites service move
  generalize service.perform sites move = after at how ⊢
  cases how with
  | calm carries unended =>
    refine .quiet (carries.calls_eq rfl) carries.runs ?_
    exact fun id errand attempt outcome _ => unended id errand attempt outcome
  | dropped drops =>
    subst drops
    exact .quiet rfl (Carries.refl service).runs nofun
  | @launched caller domain patience host _ event carries =>
    refine .launched event ?_ carries.runs
    rw [carries.calls, filter_launchErrands]
    rfl
  | @completed id errand attempt outcome agenda event final left =>
    have taken : service.calls = CheckService.calls { service with agenda } +
        Multiset.filter (·.2.toArchive = true) {(id, errand)} := by
      unfold CheckService.calls
      rw [left, Multiset.filter_add]
    cases archive : errand.toArchive with
    | true =>
      have carries := @carries_heard _ sites { service with agenda } id errand archive outcome
      have one : Multiset.filter (·.2.toArchive = true) {(id, errand)} = {(id, errand)} :=
        Multiset.filter_eq_self.mpr fun pair member => Multiset.mem_singleton.mp member ▸ archive
      refine .heard archive event ?_ carries.runs
      rw [taken, carries.calls_eq rfl, one]
      rfl
    | false =>
      -- A login or a lookup that is over concerns no call to the archive.
      have none : Multiset.filter (·.2.toArchive = true) {(id, errand)} = 0 := by
        refine Multiset.filter_eq_nil.mpr fun pair member called => ?_
        rw [Multiset.mem_singleton.mp member, archive] at called
        cases called
      have unended : ∀ id errand attempt outcome, errand.toArchive = true →
          service.eventOf? move = some (.ended id errand attempt outcome) →
          (sites.plan id.domain errand).verdict attempt outcome ≠ .final := by
        intro _ _ _ _ called ended
        cases event.symm.trans ended
        cases archive.symm.trans called
      rw [none, add_zero] at taken
      cases errand with
      | availability | snapshots => cases archive
      | logIn user password =>
        have carries := @carries_loginEnded _ sites { service with agenda } id
          (tokenOf (deskClock sites { service with agenda })
            (Reputation.loginResult (sites.plan id.domain (.logIn user password)) outcome))
        exact .quiet ((carries.calls_eq filter_errandsOf).trans taken.symm) carries.runs unended
      | lookup token =>
        have carries := @carries_lookupEnded _ { service with agenda } id
          ((sites.plan id.domain (.lookup token)).result outcome)
        exact .quiet ((carries.calls_eq rfl).trans taken.symm) carries.runs unended

/-! ### What runs have heard -/

/-- What is known of some calls that are under way and of runs by their names: each call is made
once, and a run keeps what it has heard. -/
structure Attentive (calls : Multiset (RunId × Errand)) (runs : RunId → Option Run) : Prop where
  named : ∀ id run, runs id = some run → run.id = id
  known : ∀ pair ∈ calls, (runs pair.1).isSome
  once : calls.Nodup
  /-- A call is under way as long as its run has not heard how it came out. -/
  unheard : ∀ pair ∈ calls, ∀ run, runs pair.1 = some run → run.heardOf pair.2 = false
  /-- If a call has crashed, its run will not hear how it came out. -/
  crashed : ∀ id run, runs id = some run → run.archiveCrash.isSome →
    ∃ errand, errand.toArchive = true ∧ run.heardOf errand = false ∧ (id, errand) ∉ calls
  /-- A run that has ended with a report tells what it has heard. -/
  faithful : ∀ id run report, runs id = some run → run.outcome = some (.ok report) →
    run.archive? = some report.archive

namespace Attentive

variable {calls : Multiset (RunId × Errand)} {runs : RunId → Option Run}

theorem goesOn (attentive : Attentive calls runs) {later : RunId → Option Run}
    (goes : ∀ id, Option.Rel Run.GoesOn (runs id) (later id)) : Attentive calls later where
  named id run found := by
    obtain ⟨earlier, known, goes⟩ := exists_of_rel (goes id) found
    exact goes.id.trans (attentive.named id earlier known)
  known pair member := by
    have found := attentive.known pair member
    have goes := goes pair.1
    generalize runs pair.1 = run, later pair.1 = after at goes found ⊢
    cases goes with
    | none => exact found
    | some => rfl
  once := attentive.once
  unheard pair member run found := by
    obtain ⟨earlier, known, goes⟩ := exists_of_rel (goes pair.1) found
    rw [goes.heardOf]
    exact attentive.unheard pair member earlier known
  crashed id run found broken := by
    obtain ⟨earlier, known, goes⟩ := exists_of_rel (goes id) found
    rw [goes.archiveCrash] at broken
    rw [goes.heardOf]
    exact attentive.crashed id earlier known broken
  faithful id run report found ended := by
    obtain ⟨earlier, known, goes⟩ := exists_of_rel (goes id) found
    rw [goes.archive?]
    exact (goes.outcome report ended).elim (attentive.faithful id earlier report known) fun told => told

/-- A new run starts its two calls, which no other run of its name has started. -/
theorem launched (attentive : Attentive calls runs) {id : RunId} (unknown : runs id = none) :
    Attentive (calls + {(id, .availability), (id, .snapshots)})
      fun other => (runs other).or (if id = other then some (Run.new id) else none) := by
  -- Every call under way is one of a known run.
  have fresh : ∀ errand, (id, errand) ∉ calls := by
    intro errand member
    have found := attentive.known _ member
    rw [unknown] at found
    cases found
  have new : ∀ pair ∈ ({(id, .availability), (id, .snapshots)} : Multiset (RunId × Errand)),
      pair.1 = id := by
    simp
  have either : ∀ other run,
      (runs other).or (if id = other then some (Run.new id) else none) = some run →
      runs other = some run ∨ id = other ∧ run = Run.new id := by
    intro other run found
    rcases Option.or_eq_some_iff.mp found with known | ⟨-, added⟩
    · exact .inl known
    · split at added
      next same => exact .inr ⟨same, (Option.some.inj added).symm⟩
      · cases added
  constructor
  case named =>
    intro other run found
    rcases either other run found with earlier | ⟨rfl, rfl⟩
    · exact attentive.named other run earlier
    · rfl
  case known =>
    intro pair member
    rcases Multiset.mem_add.mp member with earlier | added
    · rw [Option.isSome_or, attentive.known pair earlier, Bool.true_or]
    · rw [new pair added, unknown, if_pos rfl]
      rfl
  case once =>
    refine Multiset.nodup_add.mpr ⟨attentive.once, ?_, ?_⟩
    · simp
    · refine Multiset.disjoint_left.mpr fun {pair} earlier added => ?_
      obtain ⟨name, errand⟩ := pair
      cases new _ added
      exact fresh errand earlier
  case unheard =>
    intro pair member run found
    rcases either pair.1 run found with earlier | ⟨-, rfl⟩
    · rcases Multiset.mem_add.mp member with known | added
      · exact attentive.unheard pair known run earlier
      · rw [new pair added, unknown] at earlier
        cases earlier
    · cases pair.2 <;> rfl
  case crashed =>
    intro other run found broken
    rcases either other run found with earlier | ⟨-, rfl⟩
    · obtain ⟨errand, archive, unheard, gone⟩ := attentive.crashed other run earlier broken
      refine ⟨errand, archive, unheard, fun member => ?_⟩
      rcases Multiset.mem_add.mp member with known | added
      · exact gone known
      · have same : other = id := new _ added
        rw [same, unknown] at earlier
        cases earlier
    · cases broken
  case faithful =>
    intro other run report found ended
    rcases either other run found with earlier | ⟨-, rfl⟩
    · exact attentive.faithful other run report earlier ended
    · cases ended

/-- A run hears of a call that was under way, and the call is over. -/
theorem heard {id : RunId} {errand : Errand} (attentive : Attentive (calls + {(id, errand)}) runs)
    (archive : errand.toArchive = true) {change : Run → Run}
    (hears : ∀ run, Run.Hears run errand (change run)) :
    Attentive calls
      fun other => (runs other).map fun run => if run.id = id then change run else run := by
  have added : (id, errand) ∈ calls + {(id, errand)} :=
    Multiset.mem_add.mpr (.inr (Multiset.mem_singleton_self _))
  obtain ⟨once, -, apart⟩ := Multiset.nodup_add.mp attentive.once
  have gone : (id, errand) ∉ calls := fun member =>
    Multiset.disjoint_left.mp apart member (Multiset.mem_singleton_self _)
  -- A run is changed if it is the one of the call, which it has not heard of yet.
  have either : ∀ other run, ((runs other).map fun run => if run.id = id then change run else run) =
      some run → ∃ earlier, runs other = some earlier ∧
        (other = id ∧ earlier.heardOf errand = false ∧ Run.Hears earlier errand run ∨
          other ≠ id ∧ run = earlier) := by
    intro other run found
    obtain ⟨earlier, known, rfl⟩ := Option.map_eq_some_iff.mp found
    have name := attentive.named other earlier known
    refine ⟨earlier, known, ?_⟩
    split
    next own =>
      have same : other = id := name.symm.trans own
      exact .inl ⟨same, attentive.unheard _ added earlier (same ▸ known), hears earlier⟩
    next differs => exact .inr ⟨fun same => differs (name.trans same), rfl⟩
  constructor
  case named =>
    intro other run found
    obtain ⟨earlier, known, ⟨-, -, hears⟩ | ⟨-, rfl⟩⟩ := either other run found
    · exact hears.id_eq.trans (attentive.named other earlier known)
    · exact attentive.named other run known
  case known =>
    intro pair member
    rw [Option.isSome_map]
    exact attentive.known pair (Multiset.mem_add.mpr (.inl member))
  case once => exact once
  case unheard =>
    intro pair member run found
    have member' : pair ∈ calls + {(id, errand)} := Multiset.mem_add.mpr (.inl member)
    obtain ⟨earlier, known, ⟨own, -, hears⟩ | ⟨-, rfl⟩⟩ := either pair.1 run found
    · have differs : pair.2 ≠ errand := fun same => gone (by rw [← own, ← same]; exact member)
      rw [hears.heardOf_of_ne differs]
      exact attentive.unheard pair member' earlier known
    · exact attentive.unheard pair member' run known
  case crashed =>
    intro other run found broken
    obtain ⟨earlier, known, ⟨rfl, unheard, hears⟩ | ⟨-, rfl⟩⟩ := either other run found
    · rcases hears.heardOf_or_archiveCrash with same | same
      · exact ⟨errand, archive, same.trans unheard, gone⟩
      · -- The crash is an earlier one, of the other call.
        obtain ⟨errand', archive', unheard', absent⟩ :=
          attentive.crashed other earlier known (same ▸ broken)
        have differs : errand' ≠ errand := fun alike => absent (alike ▸ added)
        exact ⟨errand', archive', (hears.heardOf_of_ne differs).trans unheard',
          fun member => absent (Multiset.mem_add.mpr (.inl member))⟩
    · obtain ⟨errand', archive', unheard, absent⟩ := attentive.crashed other run known broken
      exact ⟨errand', archive', unheard, fun member => absent (Multiset.mem_add.mpr (.inl member))⟩
  case faithful =>
    intro other run report found ended
    obtain ⟨earlier, known, ⟨-, unheard, hears⟩ | ⟨-, rfl⟩⟩ := either other run found
    · -- A run that has not heard of both calls has not ended with a report.
      rw [hears.outcome_eq] at ended
      have told := attentive.faithful other earlier report known ended
      cases unheard.symm.trans (Run.heardOf_of_archive? told archive)
    · exact attentive.faithful other run report known ended

end Attentive

/-- What is known of the calls and the runs of a service. -/
structure Informs (service : CheckService σ) : Prop where
  tracked : Tracked service
  attentive : Attentive service.calls service.run?

namespace Informs

theorem new (server : σ) (credentials : Credentials) (lifetime : Measure) :
    Informs (CheckService.new server credentials lifetime) where
  tracked := .new server credentials lifetime
  attentive :=
    { named := fun _ _ found => nomatch found
      known := fun _ member => absurd member (Multiset.notMem_zero _)
      once := Multiset.nodup_zero
      unheard := fun _ member => absurd member (Multiset.notMem_zero _)
      crashed := fun _ _ found => nomatch found
      faithful := fun _ _ _ found => nomatch found }

/-- The next run of a domain is not known yet. -/
theorem run?_nextRun (tracked : Tracked service) (host : String) :
    service.run? (service.nextRun host) = none := by
  cases found : service.run? (service.nextRun host) with
  | none => rfl
  | some run => exact absurd (tracked.numbered _ (mem_ids_of_run? found)) (Nat.lt_irrefl _)

theorem run?_append (run : Run) (other : RunId) :
    run? { service with runs := service.runs ++ [run] } other =
      (service.run? other).or (if run.id = other then some run else none) := by
  simp only [run?, List.find?_append, List.find?_singleton, beq_iff_eq]

theorem run?_hearing {errand : Errand} (archive : errand.toArchive = true) (plan : Plan)
    (outcome : Outcome) (other : RunId) :
    (service.updateRun id (hearing plan outcome errand)).run? other =
      (service.run? other).map fun run =>
        if run.id = id then hearing plan outcome errand run else run :=
  run?_updateRun (fun run => (Run.Hears.of_hearing archive plan outcome run).id_eq) other

theorem perform (informs : Informs service) (move : Move) :
    Informs (service.perform sites move) := by
  refine ⟨informs.tracked.perform move, ?_⟩
  have attentive := informs.attentive
  have how := called sites service move
  generalize service.perform sites move = after at how ⊢
  cases how with
  | quiet calls runs =>
    rw [calls]
    exact attentive.goesOn runs
  | launched _ calls runs =>
    rw [calls]
    simp only [run?_append] at runs
    exact (attentive.launched (run?_nextRun informs.tracked _)).goesOn runs
  | @heard id errand _ outcome archive _ calls runs =>
    rw [calls] at attentive
    simp only [run?_hearing archive] at runs
    exact (attentive.heard archive fun run => .of_hearing archive _ outcome run).goesOn runs

/-- A run keeps what it has heard. -/
theorem keeps_perform (informs : Informs service) (move : Move) {run : Run}
    (found : service.run? id = some run) :
    ∃ after, (service.perform sites move).run? id = some after ∧ Run.Keeps run after := by
  have attentive := informs.attentive
  have how := called sites service move
  generalize service.perform sites move = after at how ⊢
  cases how with
  | quiet _ runs =>
    obtain ⟨later, known, goes⟩ := exists_of_rel_left (runs id) found
    exact ⟨later, known, goes.keeps⟩
  | launched _ _ runs =>
    have known := runs id
    rw [run?_append, found, Option.some_or] at known
    obtain ⟨later, known, goes⟩ := exists_of_rel_left known rfl
    exact ⟨later, known, goes.keeps⟩
  | @heard other errand _ outcome archive _ calls runs =>
    have known := runs id
    rw [run?_hearing archive, found, Option.map_some] at known
    obtain ⟨later, known, goes⟩ := exists_of_rel_left known rfl
    refine ⟨later, known, Run.Keeps.trans ?_ goes.keeps⟩
    split
    next own =>
      -- The call was under way, so the run had not heard of it.
      have member : (other, errand) ∈ service.calls := by
        rw [calls]
        exact Multiset.mem_add.mpr (.inr (Multiset.mem_singleton_self _))
      have name : other = id := own.symm.trans (attentive.named id run found)
      have unheard := attentive.unheard _ member run (by rw [name]; exact found)
      exact (Run.Hears.of_hearing archive _ outcome run).keeps unheard
    · exact ⟨fun _ heard => heard, fun _ heard => heard⟩

theorem keeps_history (informs : Informs service) (moves : List Move) {run : Run}
    (found : service.run? id = some run) :
    ∃ after, (service.history sites moves).run? id = some after ∧ Run.Keeps run after := by
  induction moves generalizing service run with
  | nil => exact ⟨run, found, fun _ heard => heard, fun _ heard => heard⟩
  | cons move moves ih =>
    obtain ⟨next, known, keeps⟩ :
        ∃ next, (service.perform sites move).run? id = some next ∧ Run.Keeps run next :=
      informs.keeps_perform move found
    obtain ⟨last, known, keeps'⟩ := ih (informs.perform move) known
    exact ⟨last, known, keeps.trans keeps'⟩

/-- When a call is over, its run has heard how it came out. -/
theorem hears_perform (informs : Informs service) {errand : Errand} {attempt : Nat}
    {outcome : Outcome} (archive : errand.toArchive = true)
    (event : service.eventOf? move = some (.ended id errand attempt outcome))
    (final : (sites.plan id.domain errand).verdict attempt outcome = .final) :
    ∃ run after, (service.perform sites move).run? id = some after ∧
      Run.GoesOn (hearing (sites.plan id.domain errand) outcome errand run) after := by
  have attentive := informs.attentive
  have how := called sites service move
  generalize service.perform sites move = after at how ⊢
  cases how with
  | quiet _ _ unended => exact absurd final (unended _ _ _ _ archive event)
  | launched arrives => cases event.symm.trans arrives
  | heard archive ended calls runs =>
    cases event.symm.trans ended
    have member : (id, errand) ∈ service.calls := by
      rw [calls]
      exact Multiset.mem_add.mpr (.inr (Multiset.mem_singleton_self _))
    obtain ⟨run, found⟩ : ∃ run, service.run? id = some run :=
      Option.isSome_iff_exists.mp (attentive.known _ member)
    have known := runs id
    rw [run?_hearing archive, found, Option.map_some, if_pos (attentive.named id run found)] at known
    obtain ⟨later, known, goes⟩ := exists_of_rel_left known rfl
    exact ⟨run, later, known, goes⟩

end Informs

/-- It is known of a service whatever happens. -/
theorem informs_history (sites : CheckSites σ) (server : σ) (credentials : Credentials)
    (lifetime : Measure) (moves : List Move) :
    Informs ((new server credentials lifetime).history sites moves) :=
  preserved_history (fun move holds => holds.perform move) (.new server credentials lifetime) moves

/-! ### Calls that fail -/

variable {start : CheckService σ} {moves : List Move}

/-- When a call was over at some moment, its run has heard of it and keeps that. -/
theorem Informs.keeps_of_happened (informs : Informs start) {errand : Errand} {attempt : Nat}
    {outcome : Outcome} (archive : errand.toArchive = true)
    (happens : .ended id errand attempt outcome ∈ start.happened sites moves)
    (final : (sites.plan id.domain errand).verdict attempt outcome = .final) :
    ∃ run after, (start.history sites moves).run? id = some after ∧
      Run.Keeps (hearing (sites.plan id.domain errand) outcome errand run) after := by
  obtain ⟨earlier, move, later, rfl, event⟩ := exists_move_of_happened happens
  have before : Informs (start.history sites earlier) :=
    preserved_history (fun move holds => holds.perform move) informs earlier
  obtain ⟨run, next, known, goes⟩ := before.hears_perform archive event final
  obtain ⟨last, known, keeps⟩ := (before.perform move).keeps_history later known
  rw [history_append]
  exact ⟨run, last, known, goes.keeps.trans keeps⟩

theorem Informs.availability_of_fails (informs : Informs start) {attempt : Nat} {outcome : Outcome}
    (happens : .ended id .availability attempt outcome ∈ start.happened sites moves)
    (final : (sites.plan id.domain .availability).verdict attempt outcome = .final)
    (fails : outcome.Fails) :
    ∃ after part, (start.history sites moves).run? id = some after ∧
      after.availability = some part ∧ ArchiveReport.Void outcome part := by
  obtain ⟨run, after, known, keeps⟩ := informs.keeps_of_happened rfl happens final
  obtain ⟨part, comes, empty⟩ := @ArchiveReport.partOf_of_fails _ Archive.objectOf? _
    (fun _ => Archive.objectOf?_eq_none) fails (sites.plan id.domain .availability)
  refine ⟨after, part, known, keeps.availability part ?_, empty⟩
  unfold hearing Run.withAvailability
  simp only [comes]

theorem Informs.snapshots_of_fails (informs : Informs start) {attempt : Nat} {outcome : Outcome}
    (happens : .ended id .snapshots attempt outcome ∈ start.happened sites moves)
    (final : (sites.plan id.domain .snapshots).verdict attempt outcome = .final)
    (fails : outcome.Fails) :
    ∃ after part, (start.history sites moves).run? id = some after ∧
      after.snapshots = some part ∧ ArchiveReport.Void outcome part := by
  obtain ⟨run, after, known, keeps⟩ := informs.keeps_of_happened rfl happens final
  obtain ⟨part, comes, empty⟩ := @ArchiveReport.partOf_of_fails _ Archive.listOf? _
    (fun _ => Archive.listOf?_eq_none) fails (sites.plan id.domain .snapshots)
  refine ⟨after, part, known, keeps.snapshots part ?_, empty⟩
  unfold hearing Run.withSnapshots
  simp only [comes]

/-- A run that has heard of both calls has taken in no crash. -/
theorem Informs.archiveCrash_eq_none (informs : Informs service) {run : Run}
    (known : service.run? id = some run) (available : run.availability.isSome)
    (listed : run.snapshots.isSome) : run.archiveCrash = none := by
  cases broken : run.archiveCrash with
  | none => rfl
  | some crash =>
    obtain ⟨errand, archive, unheard, -⟩ :=
      informs.attentive.crashed id run known (broken ▸ rfl)
    cases errand with
    | logIn | lookup => cases archive
    | availability => cases available.symm.trans unheard
    | snapshots => cases listed.symm.trans unheard

/-- Along every schedule, when both calls of a run to the archive have failed for good, what the run
tells of the archive is that there are no snapshots, with an error if no call was answered, and
without one if some call was. A report that tells the error is not stored. -/
theorem error_iff_unanswered (sites : CheckSites σ) (server : σ) (credentials : Credentials)
    (lifetime : Measure) (moves : List Move) {id : RunId} {attempt attempt' : Nat}
    {first second : Outcome}
    (available : .ended id .availability attempt first ∈
      (new server credentials lifetime).happened sites moves)
    (final : (sites.plan id.domain .availability).verdict attempt first = .final)
    (fails : first.Fails)
    (listed : .ended id .snapshots attempt' second ∈
      (new server credentials lifetime).happened sites moves)
    (final' : (sites.plan id.domain .snapshots).verdict attempt' second = .final)
    (fails' : second.Fails) :
    let state := (new server credentials lifetime).history sites moves
    ∃ archive, (state.run? id).bind Run.archive? = some archive ∧
      archive.hasSnapshots = false ∧
      (archive.error ≠ none ↔ first.Unanswered ∧ second.Unanswered) ∧
      ∀ report, state.EndedWith id (.ok report) →
        report.archive = archive ∧
          (archive.error ≠ none → ∀ entry ∈ state.cache.entries, entry.value ≠ report) := by
  intro state
  have informs : Informs state := informs_history sites server credentials lifetime moves
  have kept : Kept state := kept_history sites server credentials lifetime moves
  have new := Informs.new server credentials lifetime
  obtain ⟨run, availability, known, heard, void⟩ := new.availability_of_fails available final fails
  obtain ⟨run', snapshots, known', heard', void'⟩ := new.snapshots_of_fails listed final' fails'
  cases known.symm.trans known'
  have whole := informs.archiveCrash_eq_none known (heard ▸ rfl) (heard' ▸ rfl)
  have tells : run.archive? = some (.merge run.id.domain availability snapshots) := by
    unfold Run.archive?
    rw [whole, heard, heard']
  obtain ⟨nothing, error⟩ := ArchiveReport.merge_of_void void void' run.id.domain
  refine ⟨_, by rw [known]; exact tells, nothing, error, ?_⟩
  intro report ended
  -- The report that the run ended with tells what the run had heard, which has not changed.
  have same : report.archive = .merge run.id.domain availability snapshots := by
    obtain ⟨run', member, named, outcome⟩ := ended
    have found := kept.tracked.run?_of_mem member
    rw [named, known] at found
    cases found
    have told := informs.attentive.faithful id run report known outcome
    exact Option.some.inj (told.symm.trans tells)
  refine ⟨same, fun told entry member stored => ?_⟩
  obtain ⟨-, -, -, -, clean⟩ := kept.sources entry member
  rw [stored] at clean
  exact told (same ▸ (kept.errors_of_isClean ended clean).2)

/-! ### Two archives out of order -/

/-- The event is that an errand of a run has failed for good. -/
def isFailureOf (sites : CheckSites σ) (id : RunId) (errand : Errand) : CheckEvent → Bool
  | .ended other carried attempt outcome =>
    other = id ∧ carried = errand ∧
      (sites.plan id.domain errand).verdict attempt outcome = .final ∧ outcome.Fails
  | _ => false

theorem exists_of_isFailureOf {errand : Errand} {events : List CheckEvent}
    (fails : events.any (isFailureOf sites id errand) = true) :
    ∃ attempt outcome, .ended id errand attempt outcome ∈ events ∧
      (sites.plan id.domain errand).verdict attempt outcome = .final ∧ outcome.Fails := by
  obtain ⟨event, member, test⟩ := List.any_eq_true.mp fails
  unfold isFailureOf at test
  split at test
  next other carried attempt outcome =>
    obtain ⟨rfl, rfl, final, fails⟩ := of_decide_eq_true test
    exact ⟨attempt, outcome, member, final, fails⟩
  · cases test

/-- The usual sites, where no request is answered. -/
def silent : CheckSites Unit :=
  { answering ⟨404, []⟩ with serve := fun state _ => (⟨0, .failed .unspecified ""⟩, state) }

/-- Who has a fixed key. -/
def keyHolder : Credentials := ⟨some "k", none, none⟩

/-- The usual sites, where the archive is out of service and all domains are unlisted. -/
def unavailable : CheckSites Unit :=
  { answering ⟨404, []⟩ with
    serve := fun state request =>
      (⟨0, .answered ⟨if request.authorization.isSome then 404 else 503, []⟩⟩, state) }

/-- One check, of which everything happens in the order in which it was put on the agenda. -/
def oneCheck (events : Nat) : List Move :=
  .arrive 0 (.text "example.com") none :: List.replicate events (.event 0)

/-- Without any answer, the error is told. -/
theorem error_of_silence :
    let id : RunId := ⟨"example.com", 0⟩
    ∃ attempt attempt' first second,
      .ended id .availability attempt first ∈
        (new () keyHolder (.ofMilliseconds 900000)).happened silent (oneCheck 3) ∧
      (silent.plan id.domain .availability).verdict attempt first = .final ∧ first.Fails ∧
      .ended id .snapshots attempt' second ∈
        (new () keyHolder (.ofMilliseconds 900000)).happened silent (oneCheck 3) ∧
      (silent.plan id.domain .snapshots).verdict attempt' second = .final ∧ second.Fails ∧
      let state := (new () keyHolder (.ofMilliseconds 900000)).history silent (oneCheck 3)
      ∃ archive, (state.run? id).bind Run.archive? = some archive ∧
        archive.hasSnapshots = false ∧
        (archive.error ≠ none ↔ first.Unanswered ∧ second.Unanswered) ∧
        ∀ report, state.EndedWith id (.ok report) →
          report.archive = archive ∧
            (archive.error ≠ none → ∀ entry ∈ state.cache.entries, entry.value ≠ report) := by
  intro id
  obtain ⟨fails, fails'⟩ :
      ((new () keyHolder (.ofMilliseconds 900000)).happened silent (oneCheck 3)).any
          (isFailureOf silent id .availability) = true ∧
        ((new () keyHolder (.ofMilliseconds 900000)).happened silent (oneCheck 3)).any
          (isFailureOf silent id .snapshots) = true := by
    decide +kernel
  obtain ⟨attempt, first, available, final, failed⟩ := exists_of_isFailureOf fails
  obtain ⟨attempt', second, listed, final', failed'⟩ := exists_of_isFailureOf fails'
  exact ⟨attempt, attempt', first, second, available, final, failed, listed, final', failed',
    error_iff_unanswered silent () keyHolder _ (oneCheck 3) available final failed listed final' failed'⟩

/-- An archive that is out of service for both calls counts like one without snapshots, and the report
is stored. The call about availability is made twice. -/
theorem stored_of_unavailable :
    let id : RunId := ⟨"example.com", 0⟩
    let start := new () keyHolder (.ofMilliseconds 900000)
    let state := start.history unavailable (oneCheck 5)
    (∃ attempt outcome,
      .ended id .availability attempt outcome ∈ start.happened unavailable (oneCheck 5) ∧
      (unavailable.plan id.domain .availability).verdict attempt outcome = .final ∧
      outcome.Fails) ∧
    (∃ attempt outcome,
      .ended id .snapshots attempt outcome ∈ start.happened unavailable (oneCheck 5) ∧
      (unavailable.plan id.domain .snapshots).verdict attempt outcome = .final ∧
      outcome.Fails) ∧
    ((state.run? id).bind Run.archive?).map ArchiveReport.error = some none ∧
    state.cache.entries.map (fun entry => (entry.key, entry.value.archive.error)) =
      [("example.com", none)] := by
  intro id start state
  obtain ⟨fails, fails', told, stored⟩ :
      (start.happened unavailable (oneCheck 5)).any (isFailureOf unavailable id .availability) =
          true ∧
        (start.happened unavailable (oneCheck 5)).any (isFailureOf unavailable id .snapshots) =
          true ∧
        ((state.run? id).bind Run.archive?).map ArchiveReport.error = some none ∧
        state.cache.entries.map (fun entry => (entry.key, entry.value.archive.error)) =
          [("example.com", none)] := by
    decide +kernel
  exact ⟨exists_of_isFailureOf fails, exists_of_isFailureOf fails', told, stored⟩

end CheckService

end DomainScout
