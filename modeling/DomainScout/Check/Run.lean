import DomainScout.Check.Flights
import DomainScout.Check.Report

/-!
# Check runs

A run asks the reputation service and the archive at the same time, and the archive two things at
the same time. It ends with a report when all parts are there, or with the first crash; what is
then still under way goes on in the background.
-/
namespace DomainScout

open Remote

/-- What a run does remotely. -/
inductive Errand where
  | logIn (user password : String)
  | lookup (token : String)
  | availability
  | snapshots
  deriving DecidableEq

/-- The errand is one to the archive. -/
def Errand.toArchive : Errand → Bool
  | .availability | .snapshots => true
  | .logIn _ _ | .lookup _ => false

/-- A run and what it has so far. -/
structure Run where
  id : RunId
  reputation : Option (Except Crash ReputationReport)
  availability : Option (ArchiveReport.Part Fields)
  snapshots : Option (ArchiveReport.Part (List Value))
  /-- The crash of an errand to the archive, after which no other one is sent. -/
  archiveCrash : Option Crash
  /-- What the run ended with. -/
  outcome : Option (Except Crash Report)

namespace Run

/-- A run that has nothing yet. -/
def new (id : RunId) : Run := ⟨id, none, none, none, none, none⟩

/-- What the parts amount to: a crash if there is one, a report if all parts are there. -/
def result? (run : Run) : Option (Except Crash Report) :=
  match run.reputation, run.archiveCrash with
  | some (.error crash), _ => some (.error crash)
  | _, some crash => some (.error crash)
  | reputation, none =>
    match reputation, run.availability, run.snapshots with
    | some (.ok reputation), some availability, some snapshots =>
      some (.ok ⟨run.id.domain, reputation, .merge run.id.domain availability snapshots⟩)
    | _, _, _ => none

/-- Take in what the reputation service says. -/
def withReputation (run : Run) (report : Except Crash ReputationReport) : Run :=
  { run with reputation := some report }

/-- Take in a crash of an errand to the archive. -/
def withArchiveCrash (run : Run) (crash : Crash) : Run :=
  { run with archiveCrash := run.archiveCrash.or (some crash) }

/-- Take in what the archive tells about availability. -/
def withAvailability (run : Run) (result : Except CallError Response) : Run :=
  match ArchiveReport.partOf Archive.objectOf? result with
  | .ok part => { run with availability := some part }
  | .error crash => run.withArchiveCrash crash

/-- Take in the list of snapshots. -/
def withSnapshots (run : Run) (result : Except CallError Response) : Run :=
  match ArchiveReport.partOf Archive.listOf? result with
  | .ok part => { run with snapshots := some part }
  | .error crash => run.withArchiveCrash crash

end Run

end DomainScout
