import DomainScout.Proofs.Check.Merging

/-!
# The day of the closest snapshot

The archive's time stamps begin with a year, a month and a day, eight digits in all. The day is cut out
of a stamp by position, and nothing but the length of the stamp is looked at. So what is told always has
the shape of a day, and it is a day only if the archive kept to its form.

Main statement: `CheckService.day_told_iff`.
-/
namespace DomainScout

open Remote

namespace ArchiveReport

variable {stamp : Value} {day : String} {year month date : List Char}

/-! ### Days -/

/-- A text has the parts of a day at their places, whatever they consist of. -/
structure Dated (day : String) (year month date : List Char) : Prop where
  sized : year.length = 4 ∧ month.length = 2 ∧ date.length = 2
  written : day.toList = year ++ '-' :: (month ++ '-' :: date)

/-- Four digits, a hyphen, two digits, a hyphen, two digits, and that is all. -/
def IsDay (day : String) : Prop :=
  ∃ year month date, Dated day year month date ∧ ∀ c ∈ year ++ (month ++ date), c.isDigit = true

theorem Dated.unique {year' month' date' : List Char} (one : Dated day year month date)
    (other : Dated day year' month' date') : year = year' ∧ month = month' ∧ date = date' := by
  have same := one.written.symm.trans other.written
  obtain ⟨rfl, rest⟩ := List.append_inj same (one.sized.1.trans other.sized.1.symm)
  obtain ⟨rfl, last⟩ := List.append_inj (List.cons.inj rest).2 (one.sized.2.1.trans other.sized.2.1.symm)
  exact ⟨rfl, rfl, (List.cons.inj last).2⟩

theorem Dated.length_eq (dated : Dated day year month date) : day.length = 10 := by
  rw [← String.length_toList, dated.written]
  simp [dated.sized]

theorem Dated.isDay_iff (dated : Dated day year month date) :
    IsDay day ↔ ∀ c ∈ year ++ (month ++ date), c.isDigit = true := by
  constructor
  · rintro ⟨_, _, _, other, digits⟩
    obtain ⟨rfl, rfl, rfl⟩ := dated.unique other
    exact digits
  · exact fun digits => ⟨year, month, date, dated, digits⟩

/-! ### Stamps -/

/-- The text of a stamp, empty if the stamp is missing, empty, zero or false. -/
def stampText (stamp : Value) : List Char := (stamp.orElse (.text "")).display.toList

/-- The stamp is too short to have a day cut out of it, or it begins with eight digits. -/
def Stamped (stamp : Value) : Prop :=
  (stampText stamp).length < 8 ∨ ∀ c ∈ (stampText stamp).take 8, c.isDigit = true

theorem dayOf_eq_none_iff : dayOf stamp = none ↔ (stampText stamp).length < 8 := by
  unfold dayOf stampText
  simp

theorem dated_dayOf (told : dayOf stamp = some day) :
    Dated day ((stampText stamp).take 4) (((stampText stamp).drop 4).take 2)
      (((stampText stamp).drop 6).take 2) := by
  unfold dayOf at told
  dsimp only at told
  split at told
  · cases told
  next long =>
    cases told
    constructor
    · simp only [stampText, List.length_take, List.length_drop]
      omega
    · simp [stampText]

theorem isDay_dayOf_iff : (∀ day, dayOf stamp = some day → IsDay day) ↔ Stamped stamp := by
  have parts : (stampText stamp).take 8 = (stampText stamp).take 4 ++
      (((stampText stamp).drop 4).take 2 ++ ((stampText stamp).drop 6).take 2) := by
    rw [List.take_add (i := 4) (j := 4), List.append_cancel_left_eq, List.take_add (i := 2) (j := 2),
      List.drop_drop]
  unfold Stamped
  rw [parts, ← dayOf_eq_none_iff]
  cases told : dayOf stamp with
  | none => simp
  | some day => simpa using (dated_dayOf told).isDay_iff

end ArchiveReport

namespace CheckService

open ArchiveReport

variable {σ : Type} {sites : CheckSites σ} {moves : List Move} {id : RunId}

/-- What a run tells of the archive comes from what its two calls to it have come to. -/
theorem exists_merges {server : σ} {credentials : Credentials} {lifetime : Measure} {run : Run}
    {report : ArchiveReport}
    (known : ((new server credentials lifetime).history sites moves).run? id = some run)
    (told : run.archive? = some report) :
    ∃ first second, (new server credentials lifetime).CameOut sites moves id .availability first ∧
      Merges first second report := by
  have start : Informs (new server credentials lifetime : CheckService σ) :=
    .new server credentials lifetime
  have heard (errand : Errand) (archive : errand.toArchive = true) := start.exists_cameOut known
    (Run.heardOf_of_archive? told archive) fun _ found => nomatch found
  obtain ⟨first, came, hears⟩ := heard .availability rfl
  obtain ⟨second, -, hears'⟩ := heard .snapshots rfl
  have informs := informs_history sites server credentials lifetime moves
  obtain ⟨-, report', told', merges⟩ := informs.merges known hears hears'
  cases told.symm.trans told'
  exact ⟨first, second, came, merges⟩

/-- Along every schedule: whatever the archive answers, what a run tells as the day of the closest snapshot
is ten characters with hyphens where a day has them, and it is a day just when the stamp of the closest
snapshot is missing, short, or begins with eight digits. -/
theorem day_told_iff (sites : CheckSites σ) (server : σ) (credentials : Credentials)
    (lifetime : Measure) (moves : List Move) (id : RunId) (run : Run) (report : ArchiveReport)
    (known : ((new server credentials lifetime).history sites moves).run? id = some run)
    (told : run.archive? = some report) :
    ∃ first, (new server credentials lifetime).CameOut sites moves id .availability first ∧
      (∀ day, report.lastSnapshot = some day → day.length = 10 ∧ ∃ year month date, Dated day year month date) ∧
      ((∀ day, report.lastSnapshot = some day → IsDay day) ↔
        ∀ fields, TellsClosest first fields →
          Stamped ((Value.lookup? "timestamp" fields).getD .null)) := by
  obtain ⟨first, second, came, merges⟩ := exists_merges known told
  refine ⟨first, came, ?_⟩
  by_cases tells : ∃ fields, TellsClosest first fields
  · obtain ⟨fields, tells⟩ := tells
    refine ⟨?_, ?_⟩
    · intro day last
      rw [(merges.closest fields tells).2] at last
      exact ⟨(dated_dayOf last).length_eq, _, _, _, dated_dayOf last⟩
    · constructor
      · intro days others tells'
        rw [(merges.closest others tells').2] at days
        exact isDay_dayOf_iff.mp days
      · intro stamped
        rw [(merges.closest fields tells).2]
        exact isDay_dayOf_iff.mpr (stamped fields tells)
  · -- An answer of another shape tells no day at all.
    have shapeless : ∀ fields, ¬ TellsClosest first fields := not_exists.mp tells
    have none := (merges.shapeless shapeless).2
    simp [none, shapeless]

/-- A day is told of the recorded snapshots. -/
theorem day_told_recorded :
    let start := new recorded keyHolder (.ofMilliseconds 900000)
    ∃ run report, (start.history playing (oneCheck 3)).run? ⟨"example.com", 0⟩ = some run ∧
      run.archive? = some report ∧ report.lastSnapshot = some "2019-03-04" ∧
      ∃ first, start.CameOut playing (oneCheck 3) ⟨"example.com", 0⟩ .availability first ∧
        ((∀ day, report.lastSnapshot = some day → IsDay day) ↔
          ∀ fields, TellsClosest first fields →
            Stamped ((Value.lookup? "timestamp" fields).getD .null)) := by
  intro start
  have last : (((start.history playing (oneCheck 3)).run? ⟨"example.com", 0⟩).bind Run.archive?).map
      ArchiveReport.lastSnapshot = some (some "2019-03-04") := by decide +kernel
  obtain ⟨report, found, last⟩ := Option.map_eq_some_iff.mp last
  obtain ⟨run, known, told⟩ := Option.bind_eq_some_iff.mp found
  obtain ⟨first, came, -, days⟩ := day_told_iff playing recorded keyHolder _ _ _ run report known told
  exact ⟨run, report, known, told, last, first, came, days⟩

/-- An archive whose stamps are letters. -/
def lettered : Script :=
  .ofReplies [
    ("availability", [documentReply ("\x7b\"archived_snapshots\":\x7b\"closest\":" ++
      "\x7b\"available\":true,\"timestamp\":\"abcdefgh\"\x7d\x7d\x7d")]),
    ("cdx", [documentReply "[[\"timestamp\"],[\"abcdefgh\"]]"])]

/-- Letters are told as a day. -/
theorem not_day_of_letters :
    let state := (new lettered keyHolder (.ofMilliseconds 900000)).history playing (oneCheck 3)
    ¬ ∀ run report, state.run? ⟨"example.com", 0⟩ = some run → run.archive? = some report →
      ∀ day, report.lastSnapshot = some day → IsDay day := by
  intro state days
  have last : ((state.run? ⟨"example.com", 0⟩).bind Run.archive?).map ArchiveReport.lastSnapshot =
      some (some "abcd-ef-gh") := by decide +kernel
  obtain ⟨report, found, last⟩ := Option.map_eq_some_iff.mp last
  obtain ⟨run, known, told⟩ := Option.bind_eq_some_iff.mp found
  have dated : Dated "abcd-ef-gh" ['a', 'b', 'c', 'd'] ['e', 'f'] ['g', 'h'] :=
    ⟨by decide, by decide⟩
  have digits := dated.isDay_iff.mp (days run report known told _ last)
  exact absurd (digits 'a' (by decide)) (by decide)

end CheckService

end DomainScout
