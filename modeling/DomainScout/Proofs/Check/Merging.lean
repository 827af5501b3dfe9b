import DomainScout.Proofs.Check.Outage
import DomainScout.Proofs.Check.Rejection
import DomainScout.View.Check

/-!
# What the archive is found to hold

A run asks the archive for the closest snapshot and for the list of all of them. What comes of the
one call says nothing about the other: the closest snapshot is told from the first answer alone and
the number of snapshots from the second alone, however their values are shaped. An error is told if
neither call was answered.

Main statement: `archive_merged`.
-/
namespace DomainScout

open Remote

namespace Remote.Outcome

/-- A call has not crashed: it was answered, or it met with a fault, or its time was up. -/
def Orderly : Outcome → Prop
  | .ended (.answered _) | .ended (.failed _ _) | .overdue => True
  | .ended (.crashed _) => False

instance : DecidablePred Orderly
  | .ended (.answered _) | .ended (.failed _ _) | .overdue => isTrue trivial
  | .ended (.crashed _) => isFalse id

theorem crashed_of_not_orderly {outcome : Outcome} (disorderly : ¬ outcome.Orderly) :
    ∃ crash, outcome = .ended (.crashed crash) := by
  cases outcome with
  | overdue => exact (disorderly trivial).elim
  | ended ending =>
    cases ending with
    | answered | failed => exact (disorderly trivial).elim
    | crashed crash => exact ⟨crash, rfl⟩

/-- A call was answered with success and a value. -/
def Tells (outcome : Outcome) (value : Value) : Prop :=
  ∃ response, outcome = .ended (.answered response) ∧ response.isSuccess = true ∧ response.value = value

end Remote.Outcome

namespace ArchiveReport

/-- A call has told the fields of the closest snapshot, at their place within the answer. -/
def TellsClosest (outcome : Outcome) (fields : Fields) : Prop :=
  ∃ answer archived, outcome.Tells (.object answer) ∧
    Value.lookup? "archived_snapshots" answer = some (.object archived) ∧
    Value.lookup? "closest" archived = some (.object fields)

/-- A call has told a list, with at least a header. -/
def TellsRows (outcome : Outcome) (rows : List Value) : Prop := outcome.Tells (.list rows) ∧ rows ≠ []

/-- What a report says after two calls to the archive, the first of which asked for the closest
snapshot and the second for the list. -/
structure Merges (first second : Outcome) (report : ArchiveReport) : Prop where
  /-- Without any answer an error is told, which is not empty, and nothing else. -/
  unanswered : first.Unanswered → second.Unanswered →
    report.error ≠ none ∧ report.error ≠ some "" ∧ report.hasSnapshots = false ∧
      report.snapshots = none ∧ report.lastSnapshot = none
  /-- An answer to either call, with success or not, is enough to tell no error. -/
  answered : ∀ response,
    first = .ended (.answered response) ∨ second = .ended (.answered response) → report.error = none
  /-- What is told of the closest snapshot is in the first answer. -/
  closest : ∀ fields, TellsClosest first fields →
    report.hasSnapshots = ((Value.lookup? "available" fields).getD .null).truthy ∧
      report.lastSnapshot = dayOf ((Value.lookup? "timestamp" fields).getD .null)
  /-- A first answer of any other shape tells of no snapshot. -/
  shapeless : (∀ fields, ¬ TellsClosest first fields) →
    report.hasSnapshots = false ∧ report.lastSnapshot = none
  /-- The snapshots are the rows of the second answer, but for the header. -/
  counted : ∀ rows, TellsRows second rows →
    report.snapshots.map View.countValue =
      some (if rows.length ≤ 9999 then .int (rows.length - 1) else .text "10000+")
  /-- Without a second answer that lists rows they are not counted. -/
  uncounted : (∀ rows, ¬ TellsRows second rows) → report.snapshots = none

/-! ### Single calls -/

/-- What a call comes to, by its outcome. -/
inductive Comes {α : Type} (read : Response → Option α) : Outcome → Part α → Prop
  | answered (response : Response) : Comes read (.ended (.answered response)) (.ok (read response))
  | unanswered {outcome : Outcome} (problem : Problem) (missing : outcome.Unanswered) :
      Comes read outcome (.error problem)

section Comes

variable {α : Type} {read : Response → Option α} {outcome : Outcome} {plan : Plan} {part : Part α}

theorem exists_partOf (orderly : outcome.Orderly) : ∃ part, partOf read (plan.result outcome) = .ok part := by
  cases outcome with
  | overdue => exact ⟨_, rfl⟩
  | ended ending =>
    cases ending with
    | answered | failed => exact ⟨_, rfl⟩
    | crashed => exact orderly.elim

theorem comes_of_partOf (comes : partOf read (plan.result outcome) = .ok part) : Comes read outcome part := by
  cases outcome with
  | overdue => cases comes; exact .unanswered _ trivial
  | ended ending =>
    cases ending with
    | answered response => cases comes; exact .answered response
    | failed fault message => cases comes; exact .unanswered _ trivial
    | crashed crash => cases comes

theorem Comes.orderly (comes : Comes read outcome part) : outcome.Orderly := by
  cases comes with
  | answered => exact trivial
  | unanswered _ missing =>
    cases outcome with
    | overdue => exact trivial
    | ended ending =>
      cases ending with
      | answered | failed => exact trivial
      | crashed => exact missing

theorem Comes.unanswered_iff (comes : Comes read outcome part) :
    outcome.Unanswered ↔ ∃ problem, part = .error problem := by
  cases comes with
  | answered => exact ⟨False.elim, nofun⟩
  | unanswered problem missing => exact ⟨fun _ => ⟨problem, rfl⟩, fun _ => missing⟩

/-- What was read was read from an answer. -/
theorem Comes.valueOf?_eq_some_iff (comes : Comes read outcome part) {value : α} :
    valueOf? part = some value ↔
      ∃ response, outcome = .ended (.answered response) ∧ read response = some value := by
  cases comes with
  | answered response =>
    constructor
    · exact fun told => ⟨response, rfl, told⟩
    · rintro ⟨_, ⟨⟩, told⟩
      exact told
  | unanswered problem missing =>
    constructor
    · exact nofun
    · rintro ⟨response, rfl, -⟩
      exact missing.elim

end Comes

theorem objectOf?_eq_some_iff {response : Response} {fields : Fields} :
    Archive.objectOf? response = some fields ↔
      response.isSuccess = true ∧ response.value = .object fields := by
  unfold Archive.objectOf?
  split
  next success =>
    split
    next held value => simp [success, value]
    next other => exact ⟨nofun, fun told => (other fields told.2).elim⟩
  next fails => simp [fails]

theorem listOf?_eq_some_iff {response : Response} {rows : List Value} :
    Archive.listOf? response = some rows ↔
      response.isSuccess = true ∧ response.value = .list rows := by
  unfold Archive.listOf?
  split
  next success =>
    split
    next held value => simp [success, value]
    next other => exact ⟨nofun, fun told => (other rows told.2).elim⟩
  next fails => simp [fails]

variable {first second : Outcome} {availability : Part Fields} {listed : Part (List Value)}

theorem valueOf?_eq_object (comes : Comes Archive.objectOf? first availability) {answer : Fields} :
    valueOf? availability = some answer ↔ first.Tells (.object answer) := by
  rw [comes.valueOf?_eq_some_iff]
  simp only [objectOf?_eq_some_iff, Outcome.Tells]

theorem valueOf?_eq_list (comes : Comes Archive.listOf? second listed) {rows : List Value} :
    valueOf? listed = some rows ↔ second.Tells (.list rows) := by
  rw [comes.valueOf?_eq_some_iff]
  simp only [listOf?_eq_some_iff, Outcome.Tells]

/-! ### The closest snapshot -/

/-- The fields of the closest snapshot, none if there is no such thing. -/
def closestOf (availability : Part Fields) : Fields := closest ((valueOf? availability).getD [])

theorem closest_eq {answer archived fields : Fields}
    (outer : Value.lookup? "archived_snapshots" answer = some (.object archived))
    (inner : Value.lookup? "closest" archived = some (.object fields)) : closest answer = fields := by
  unfold closest
  rw [outer, Option.bind_some, Value.field?, inner]

theorem closest_eq_nil {answer : Fields}
    (shapeless : ∀ archived fields,
      Value.lookup? "archived_snapshots" answer = some (.object archived) →
      Value.lookup? "closest" archived ≠ some (.object fields)) : closest answer = [] := by
  unfold closest
  split
  next fields nested =>
    obtain ⟨value, outer, inner⟩ := Option.bind_eq_some_iff.mp nested
    cases value with
    | object archived => exact absurd inner (shapeless archived fields outer)
    | _ => cases inner
  · rfl

theorem closestOf_eq (comes : Comes Archive.objectOf? first availability) {fields : Fields}
    (tells : TellsClosest first fields) : closestOf availability = fields := by
  obtain ⟨answer, archived, told, outer, inner⟩ := tells
  unfold closestOf
  rw [(valueOf?_eq_object comes).mpr told]
  exact closest_eq outer inner

theorem closestOf_eq_nil (comes : Comes Archive.objectOf? first availability)
    (shapeless : ∀ fields, ¬ TellsClosest first fields) : closestOf availability = [] := by
  unfold closestOf
  cases told : valueOf? availability with
  | none => rfl
  | some answer =>
    refine closest_eq_nil fun archived fields outer inner => ?_
    exact shapeless fields ⟨answer, archived, (valueOf?_eq_object comes).mp told, outer, inner⟩

/-! ### The number of snapshots -/

theorem countOf_eq_none_iff {rows : List Value} : countOf rows = none ↔ rows = [] := by
  cases rows with
  | nil => simp [countOf]
  | cons header snapshots =>
    simp only [countOf]
    split <;> simp

theorem map_countOf {rows : List Value} (filled : rows ≠ []) :
    (countOf rows).map View.countValue =
      some (if rows.length ≤ 9999 then .int (rows.length - 1) else .text "10000+") := by
  cases rows with
  | nil => exact absurd rfl filled
  | cons header snapshots =>
    have cap : countCap = 9999 := rfl
    simp only [countOf, List.length_cons]
    by_cases many : countCap ≤ snapshots.length
    · rw [if_pos many, if_neg (by omega)]
      rfl
    · rw [if_neg many, if_pos (by omega), Option.map_some, View.countValue]
      congr 2
      omega

/-! ### Both calls -/

section Merge

variable (domain : String)

/-- What is told of the closest snapshot does not depend on the list. -/
theorem hasSnapshots_merge : (merge domain availability listed).hasSnapshots =
    ((Value.lookup? "available" (closestOf availability)).getD .null).truthy := by
  cases availability <;> cases listed <;> rfl

theorem lastSnapshot_merge : (merge domain availability listed).lastSnapshot =
    dayOf ((Value.lookup? "timestamp" (closestOf availability)).getD .null) := by
  cases availability <;> cases listed <;> rfl

/-- How many snapshots are told does not depend on the closest one. -/
theorem snapshots_merge :
    (merge domain availability listed).snapshots = (valueOf? listed).bind countOf := by
  cases availability <;> cases listed <;> rfl

theorem error_merge : (merge domain availability listed).error ≠ none ↔
    (∃ problem, availability = .error problem) ∧ ∃ problem, listed = .error problem := by
  cases availability <;> cases listed <;> simp [merge]

/-- Whatever the calls come to, the report says what it should. -/
theorem merges_merge (one : Comes Archive.objectOf? first availability)
    (other : Comes Archive.listOf? second listed) :
    Merges first second (merge domain availability listed) := by
  constructor
  case unanswered =>
    intro missing missing'
    obtain ⟨problem, rfl⟩ := one.unanswered_iff.mp missing
    obtain ⟨problem', rfl⟩ := other.unanswered_iff.mp missing'
    exact ⟨Option.some_ne_none _, merge_telling domain _ _, rfl, rfl, rfl⟩
  case answered =>
    intro response either
    by_contra told
    obtain ⟨failed, failed'⟩ := (error_merge domain).mp told
    rcases either with rfl | rfl
    · exact one.unanswered_iff.mpr failed
    · exact other.unanswered_iff.mpr failed'
  case closest =>
    intro fields tells
    rw [hasSnapshots_merge, lastSnapshot_merge, closestOf_eq one tells]
    exact ⟨rfl, rfl⟩
  case shapeless =>
    intro shapeless
    rw [hasSnapshots_merge, lastSnapshot_merge, closestOf_eq_nil one shapeless]
    exact ⟨rfl, rfl⟩
  case counted =>
    rintro rows ⟨told, filled⟩
    rw [snapshots_merge, (valueOf?_eq_list other).mpr told]
    exact map_countOf filled
  case uncounted =>
    intro unlisted
    rw [snapshots_merge, Option.bind_eq_none_iff]
    intro rows told
    refine countOf_eq_none_iff.mpr ?_
    by_contra filled
    exact unlisted rows ⟨(valueOf?_eq_list other).mp told, filled⟩

end Merge

end ArchiveReport

/-- A run has heard what the outcome of a call to the archive comes to. -/
def Run.Heard (run : Run) (plan : Plan) (outcome : Outcome) : Errand → Prop
  | .availability => ∃ part,
      ArchiveReport.partOf Archive.objectOf? (plan.result outcome) = .ok part ∧
        run.availability = some part
  | .snapshots => ∃ part,
      ArchiveReport.partOf Archive.listOf? (plan.result outcome) = .ok part ∧
        run.snapshots = some part
  | .logIn _ _ | .lookup _ => False

section Heard

variable {run after : Run} {plan : Plan} {outcome : Outcome} {errand : Errand}

theorem Run.Heard.keeps (heard : run.Heard plan outcome errand) (keeps : Run.Keeps run after) :
    after.Heard plan outcome errand := by
  cases errand with
  | availability => exact heard.imp fun part => And.imp_right (keeps.availability part)
  | snapshots => exact heard.imp fun part => And.imp_right (keeps.snapshots part)
  | logIn | lookup => exact heard

theorem Run.Heard.orderly (heard : run.Heard plan outcome errand) : outcome.Orderly := by
  cases errand with
  | logIn | lookup => exact heard.elim
  | availability | snapshots =>
    obtain ⟨part, comes, -⟩ := heard
    exact (ArchiveReport.comes_of_partOf comes).orderly

end Heard

namespace CheckService

variable {σ : Type} {sites : CheckSites σ} {service : CheckService σ} {id : RunId} {move : Move}
  {moves : List Move} {run : Run} {errand : Errand} {plan : Plan} {outcome : Outcome}

/-! ### What runs have heard -/

/-- A run hears of a call that has not crashed. -/
theorem heard_hearing (archive : errand.toArchive = true) (orderly : outcome.Orderly) :
    (hearing plan outcome errand run).Heard plan outcome errand := by
  cases errand with
  | logIn | lookup => cases archive
  | availability =>
    obtain ⟨part, comes⟩ := @ArchiveReport.exists_partOf _ Archive.objectOf? _ plan orderly
    refine ⟨part, comes, ?_⟩
    simp only [hearing, Run.withAvailability, comes]
  | snapshots =>
    obtain ⟨part, comes⟩ := @ArchiveReport.exists_partOf _ Archive.listOf? _ plan orderly
    refine ⟨part, comes, ?_⟩
    simp only [hearing, Run.withSnapshots, comes]

/-- A run that hears of a call by the end of another hears of the one that ended. -/
theorem heard_of_heardOf {ended : Errand} (archive : ended.toArchive = true)
    (unheard : run.heardOf errand = false)
    (heard : (hearing plan outcome ended run).heardOf errand = true) :
    errand = ended ∧ (hearing plan outcome ended run).Heard plan outcome errand := by
  by_cases alike : errand = ended
  · subst alike
    refine ⟨rfl, ?_⟩
    by_cases orderly : outcome.Orderly
    · exact heard_hearing archive orderly
    · -- A crash tells the run nothing.
      obtain ⟨crash, rfl⟩ := Outcome.crashed_of_not_orderly orderly
      cases errand with
      | logIn | lookup => cases archive
      | availability | snapshots => cases unheard.symm.trans heard
  · rw [(Run.Hears.of_hearing archive plan outcome run).heardOf_of_ne alike] at heard
    cases unheard.symm.trans heard

/-- What a run has heard after a move it had heard before, or the call has come out by the move. -/
theorem heard_source (known : (service.perform sites move).run? id = some run)
    (heard : run.heardOf errand = true) :
    (∃ earlier, service.run? id = some earlier ∧ earlier.heardOf errand = true) ∨
      ∃ attempt outcome, service.eventOf? move = some (.ended id errand attempt outcome) ∧
        (sites.plan id.domain errand).verdict attempt outcome = .final ∧
        run.Heard (sites.plan id.domain errand) outcome errand := by
  have same : ∀ {before : Option Run}, Option.Rel Run.GoesOn before (some run) →
      ∃ earlier, before = some earlier ∧ earlier.heardOf errand = true := by
    intro before goes
    obtain ⟨earlier, found, goes⟩ := exists_of_rel goes rfl
    exact ⟨earlier, found, goes.heardOf ▸ heard⟩
  have how := advanced sites service move
  generalize service.perform sites move = after at how known
  cases how with
  | calm carries => exact .inl (same (known ▸ carries.runs id))
  | dropped => exact .inl ⟨run, known, heard⟩
  | @launched _ _ _ host _ _ carries =>
    obtain ⟨earlier, found, heard⟩ := same (known ▸ carries.runs id)
    have found := (Informs.run?_append (Run.new (service.nextRun host)) id).symm.trans found
    rcases Option.or_eq_some_iff.mp found with earlier' | ⟨-, added⟩
    · exact .inl ⟨earlier, earlier', heard⟩
    · -- A new run has heard nothing.
      split at added
      · cases added
        cases errand <;> cases heard
      · cases added
  | @completed other errand' attempt outcome agenda event final =>
    cases archive : errand'.toArchive with
    | false =>
      cases errand' with
      | availability | snapshots => cases archive
      | logIn user password =>
        have carries := @carries_loginEnded _ sites { service with agenda } other
          (tokenOf (deskClock sites { service with agenda })
            (Reputation.loginResult (sites.plan other.domain (.logIn user password)) outcome))
        have goes := carries.runs id
        rw [errandEnded] at known
        exact .inl (same (known ▸ goes))
      | lookup token =>
        have carries := @carries_lookupEnded _ { service with agenda } other
          ((sites.plan other.domain (.lookup token)).result outcome)
        have goes := carries.runs id
        rw [errandEnded] at known
        exact .inl (same (known ▸ goes))
    | true =>
      have runs := (@carries_heard _ sites { service with agenda } other errand' archive outcome).runs id
      obtain ⟨next, told, goes⟩ := exists_of_rel runs known
      rw [Informs.run?_hearing archive] at told
      obtain ⟨earlier, found, rfl⟩ := Option.map_eq_some_iff.mp told
      have named : earlier.id = id := (mem_of_run? found).2
      cases before : earlier.heardOf errand with
      | true => exact .inl ⟨earlier, found, before⟩
      | false =>
        refine .inr ?_
        rw [goes.heardOf] at heard
        split at heard
        next own =>
          cases named.symm.trans own
          rw [if_pos own] at goes
          obtain ⟨rfl, told⟩ := heard_of_heardOf archive before heard
          exact ⟨attempt, outcome, event, final, told.keeps goes.keeps⟩
        · cases before.symm.trans heard

/-- What a run has heard of a call is what the call has come to along the schedule. -/
theorem Informs.exists_cameOut (informs : Informs service)
    (known : (service.history sites moves).run? id = some run) (heard : run.heardOf errand = true)
    (unheard : ∀ earlier, service.run? id = some earlier → earlier.heardOf errand = false) :
    ∃ outcome, service.CameOut sites moves id errand outcome ∧
      run.Heard (sites.plan id.domain errand) outcome errand := by
  induction moves generalizing service with
  | nil => cases (unheard run known).symm.trans heard
  | cons move moves ih =>
    by_cases now : ∃ next, (service.perform sites move).run? id = some next ∧ next.heardOf errand = true
    · obtain ⟨next, found, hears⟩ := now
      rcases heard_source found hears with ⟨earlier, before, told⟩ | ⟨_, outcome, event, final, told⟩
      · cases (unheard earlier before).symm.trans told
      · -- It came out by this move, and the run keeps what it heard.
        obtain ⟨last, known', keeps⟩ := (informs.perform move).keeps_history moves found
        cases known.symm.trans known'
        exact ⟨outcome, .now event final, told.keeps keeps⟩
    · obtain ⟨outcome, came, told⟩ := ih (informs.perform move) known fun next found => by
        by_contra hears
        exact now ⟨next, found, Bool.not_eq_false _ ▸ hears⟩
      exact ⟨outcome, came.later, told⟩

/-- A call that has come out without a crash was heard by its run. -/
theorem Informs.heard_of_cameOut (informs : Informs service) (archive : errand.toArchive = true)
    (came : service.CameOut sites moves id errand outcome) (orderly : outcome.Orderly) :
    ∃ run, (service.history sites moves).run? id = some run ∧
      run.Heard (sites.plan id.domain errand) outcome errand := by
  obtain ⟨attempt, happens, final⟩ := came
  obtain ⟨run, after, known, keeps⟩ := informs.keeps_of_happened archive happens final
  exact ⟨after, known, (heard_hearing archive orderly).keeps keeps⟩

/-- A run that has heard of both calls tells what they come to together. -/
theorem Informs.merges (informs : Informs service) (known : service.run? id = some run)
    {first second : Outcome} {plan' : Plan} (available : run.Heard plan first .availability)
    (listed : run.Heard plan' second .snapshots) :
    run.archiveCrash = none ∧ ∃ report, run.archive? = some report ∧
      ArchiveReport.Merges first second report := by
  obtain ⟨availability, comes, heard⟩ := available
  obtain ⟨rows, comes', heard'⟩ := listed
  have whole := informs.archiveCrash_eq_none known (heard ▸ rfl) (heard' ▸ rfl)
  refine ⟨whole, .merge run.id.domain availability rows, ?_, ?_⟩
  · unfold Run.archive?
    rw [whole, heard, heard']
  · exact ArchiveReport.merges_merge run.id.domain (ArchiveReport.comes_of_partOf comes)
      (ArchiveReport.comes_of_partOf comes')

/-- Along every schedule, when both calls of a run to the archive have come out without a crash, the
run tells what they come to together. It never tells anything else of the archive, and a report that
the run ends with says the same. -/
theorem archive_merged (sites : CheckSites σ) (server : σ) (credentials : Credentials)
    (lifetime : Measure) (moves : List Move) (id : RunId) :
    let start := new server credentials lifetime
    let state := start.history sites moves
    (∀ first second, start.CameOut sites moves id .availability first →
      start.CameOut sites moves id .snapshots second → first.Orderly → second.Orderly →
      ∃ run, state.run? id = some run ∧ run.archiveCrash = none ∧
        ∃ report, run.archive? = some report ∧ ArchiveReport.Merges first second report) ∧
    (∀ run report, state.run? id = some run → run.archive? = some report →
      ∃ first second, start.CameOut sites moves id .availability first ∧
        start.CameOut sites moves id .snapshots second ∧ first.Orderly ∧ second.Orderly ∧
        ArchiveReport.Merges first second report) ∧
    ∀ report, state.EndedWith id (.ok report) →
      ∃ run, state.run? id = some run ∧ run.archive? = some report.archive := by
  intro start state
  have new : Informs start := .new server credentials lifetime
  have informs : Informs state := informs_history sites server credentials lifetime moves
  refine ⟨?_, ?_, ?_⟩
  · intro first second available listed orderly orderly'
    obtain ⟨run, known, heard⟩ := new.heard_of_cameOut rfl available orderly
    obtain ⟨run', known', heard'⟩ := new.heard_of_cameOut rfl listed orderly'
    cases known.symm.trans known'
    exact ⟨run, known, informs.merges known heard heard'⟩
  · intro run report known told
    -- Whatever was heard came out along the schedule, and only this can be told of it.
    have unheard : ∀ errand earlier, start.run? id = some earlier → earlier.heardOf errand = false :=
      fun _ _ found => nomatch found
    have both : ∀ errand : Errand, errand.toArchive = true → run.heardOf errand = true :=
      fun _ => Run.heardOf_of_archive? told
    obtain ⟨first, available, heard⟩ :=
      new.exists_cameOut known (both .availability rfl) (unheard _)
    obtain ⟨second, listed, heard'⟩ := new.exists_cameOut known (both .snapshots rfl) (unheard _)
    obtain ⟨-, report', told', merges⟩ := informs.merges known heard heard'
    cases told.symm.trans told'
    exact ⟨first, second, available, listed, heard.orderly, heard'.orderly, merges⟩
  · rintro report ⟨run, member, rfl, outcome⟩
    have known := informs.tracked.run?_of_mem member
    exact ⟨run, known, informs.attentive.faithful _ run report known outcome⟩

/-! ### An archive that answers -/

/-- The event is that an errand of a run has come out without a crash. -/
def isOrderlyEndOf (sites : CheckSites σ) (id : RunId) (errand : Errand) : CheckEvent → Bool
  | .ended other carried attempt outcome =>
    other = id ∧ carried = errand ∧
      (sites.plan id.domain errand).verdict attempt outcome = .final ∧ outcome.Orderly
  | _ => false

theorem exists_of_isOrderlyEndOf
    (ends : (service.happened sites moves).any (isOrderlyEndOf sites id errand) = true) :
    ∃ outcome, service.CameOut sites moves id errand outcome ∧ outcome.Orderly := by
  obtain ⟨event, member, test⟩ := List.any_eq_true.mp ends
  unfold isOrderlyEndOf at test
  split at test
  next other carried attempt outcome =>
    obtain ⟨rfl, rfl, final, orderly⟩ := of_decide_eq_true test
    exact ⟨outcome, ⟨attempt, member, final⟩, orderly⟩
  · cases test

/-- A reply with a document. -/
def documentReply (document : String) : Reply := ⟨0, .answered ⟨200, Text.Utf8.encode document⟩⟩

/-- An archive with two snapshots of every domain. -/
def recorded : Script :=
  .ofReplies [
    ("availability", [documentReply ("\x7b\"archived_snapshots\":\x7b\"closest\":" ++
      "\x7b\"available\":true,\"timestamp\":\"20190304050607\"\x7d\x7d\x7d")]),
    ("cdx", [documentReply "[[\"timestamp\"],[\"20180102030405\"],[\"20190304050607\"]]"])]

/-- Both calls of a check are answered, and the report tells of both snapshots. -/
theorem archive_merged_recorded :
    let id : RunId := ⟨"example.com", 0⟩
    let start := new recorded keyHolder (.ofMilliseconds 900000)
    let state := start.history playing (oneCheck 3)
    (∃ first second, start.CameOut playing (oneCheck 3) id .availability first ∧
      start.CameOut playing (oneCheck 3) id .snapshots second ∧ first.Orderly ∧ second.Orderly ∧
      ∃ run, state.run? id = some run ∧ run.archiveCrash = none ∧
        ∃ report, run.archive? = some report ∧ ArchiveReport.Merges first second report) ∧
    ((state.run? id).bind Run.archive?).map
        (fun report => (report.hasSnapshots, report.lastSnapshot, report.snapshots)) =
      some (true, some "2019-03-04", some (.exactly 2)) := by
  intro id start state
  obtain ⟨ends, ends', told⟩ :
      (start.happened playing (oneCheck 3)).any (isOrderlyEndOf playing id .availability) = true ∧
        (start.happened playing (oneCheck 3)).any (isOrderlyEndOf playing id .snapshots) = true ∧
        ((state.run? id).bind Run.archive?).map
            (fun report => (report.hasSnapshots, report.lastSnapshot, report.snapshots)) =
          some (true, some "2019-03-04", some (.exactly 2)) := by
    decide +kernel
  obtain ⟨first, available, orderly⟩ := exists_of_isOrderlyEndOf ends
  obtain ⟨second, listed, orderly'⟩ := exists_of_isOrderlyEndOf ends'
  exact ⟨⟨first, second, available, listed, orderly, orderly',
    (archive_merged playing recorded keyHolder _ (oneCheck 3) id).1 first second available listed
      orderly orderly'⟩, told⟩

end CheckService

end DomainScout
