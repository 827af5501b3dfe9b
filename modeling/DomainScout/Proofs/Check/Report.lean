import DomainScout.Check.Report
import Mathlib.Data.List.TakeWhile

/-!
# What reports tell about failures

Every failure of a remote service becomes an error text, and no error text is empty. So a report
that tells no error is one in which nothing failed.

Main statement: `Report.errors_of_isClean`.
-/
namespace DomainScout

open Remote

theorem append_ne_empty {first second : String} (filled : first ≠ "") : first ++ second ≠ "" := by
  intro empty
  exact filled (String.append_eq_empty_iff.mp empty).1

theorem Remote.Fault.name_ne_empty (fault : Fault) : fault.name ≠ "" := by
  cases fault <;> decide

/-- A problem without a message is told by its name. -/
theorem Remote.Problem.describe_ne_empty (problem : Problem) : problem.describe ≠ "" := by
  unfold Problem.describe
  split
  · cases problem with
    | fault fault message => exact fault.name_ne_empty
    | overdue message => exact (by decide : "RequestTimeoutError" ≠ "")
    | loginRefused message => exact (by decide : "LoginError" ≠ "")
  · assumption

theorem Text.trim_ne_empty {s : String} {first : Char} {rest : List Char}
    (starts : s.toList = first :: rest) (solid : isBlank first = false) : trim s ≠ "" := by
  have kept : s.toList.dropWhile isBlank = first :: rest := by
    rw [starts, List.dropWhile_cons_of_neg (by simp [solid])]
  intro empty
  have nothing : dropEndWhile isBlank (first :: rest) = [] := by
    rw [← kept]
    exact String.ofList_eq_empty_iff.mp empty
  have blanks := List.dropWhile_eq_nil_iff.mp (List.reverse_eq_nil_iff.mp nothing)
  have blank := blanks first (by simp)
  rw [solid] at blank
  cases blank

theorem Remote.Reputation.statusText_ne_empty (response : Response) (count : Nat) :
    statusText response count ≠ "" := by
  unfold statusText
  apply Text.trim_ne_empty
  · simp only [String.toList_append]
    rfl
  · decide

namespace ReputationReport

/-- The error of a report, if there is one, says something. -/
def Telling (report : ReputationReport) : Prop := report.error ≠ some ""

theorem telling_failed {text : String} (filled : text ≠ "") : (failed text).Telling := by
  intro empty
  exact filled (Option.some.inj empty)

theorem telling_unsupported (source : TokenSource) : (unsupported source).Telling := by
  unfold Telling
  cases source <;> decide

theorem telling_ofResponse (response : Response) : (ofResponse response).Telling := by
  unfold ofResponse
  split
  · exact nofun
  split
  · exact nofun
  split
  · apply telling_failed
    rw [String.append_assoc]
    exact append_ne_empty (by decide)
  · exact telling_failed (Reputation.statusText_ne_empty response 300)

theorem telling_ofResult {result : Except CallError Response} {report : ReputationReport}
    (told : ofResult result = .ok report) : report.Telling := by
  unfold ofResult at told
  split at told
  next response =>
    cases told
    exact telling_ofResponse response
  next problem =>
    cases told
    exact telling_failed problem.describe_ne_empty
  next => cases told

end ReputationReport

theorem ArchiveReport.merge_telling (domain : String) (availability : Part Fields)
    (rows : Part (List Value)) : (merge domain availability rows).error ≠ some "" := by
  unfold merge
  split
  next problem _ =>
    intro empty
    exact append_ne_empty (by decide) (Option.some.inj empty)
  next => exact nofun

theorem tellsError_eq_false {error : Option String} (telling : error ≠ some "") :
    tellsError error = false ↔ error = none := by
  cases error with
  | none => simp [tellsError]
  | some text =>
    have filled : text ≠ "" := fun empty => telling (congrArg some empty)
    simp [tellsError, filled]

namespace Report

/-- No error of the report is without a text. -/
structure Telling (report : Report) : Prop where
  reputation : report.reputation.Telling
  archive : report.archive.error ≠ some ""

/-- A clean report tells no error at all. -/
theorem errors_of_isClean {report : Report} (telling : report.Telling) (clean : report.isClean) :
    report.reputation.error = none ∧ report.archive.error = none := by
  simp only [isClean, Bool.and_eq_true, Bool.not_eq_true'] at clean
  exact ⟨(tellsError_eq_false telling.reputation).mp clean.1,
    (tellsError_eq_false telling.archive).mp clean.2⟩

end Report

end DomainScout
