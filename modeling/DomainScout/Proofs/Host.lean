import DomainScout.Host
import DomainScout.Proofs.Text.Percent
import Mathlib

/-!
# What hosts are spelled with

Main statement: `spelling_of_ofValue`, a host needs no encoding but for a line feed at its end.
-/
namespace DomainScout.Host

open Text

theorem isUnreserved_of_isHostChar {c : Char} (hosts : isHostChar c = true) :
    isUnreserved c = true := by
  simp only [isHostChar, Bool.or_eq_true, Bool.and_eq_true, decide_eq_true_eq, beq_iff_eq] at hosts
  simp only [isUnreserved, Char.isAlphanum, Char.isAlpha, Bool.or_eq_true, beq_iff_eq]
  rcases hosts with ((lower | digit) | dot) | hyphen
  · have letter : c.isLower = true := by
      simp only [Char.isLower, Bool.and_eq_true, decide_eq_true_eq]
      exact lower
    simp [letter]
  · simp [digit]
  · simp [dot]
  · simp [hyphen]

/-- A text without its final line feed, and with it. -/
theorem eq_dropFinalNewline (cs : List Char) :
    cs = dropFinalNewline cs ∨ cs = dropFinalNewline cs ++ ['\n'] := by
  unfold dropFinalNewline
  split
  next last =>
    right
    obtain ⟨front, rfl⟩ := List.getLast?_eq_some_iff.mp last
    rw [List.dropLast_concat]
  · exact .inl rfl

/-- A host is a name of unreserved characters, which a line feed may follow. -/
theorem spelling_of_ofValue {v : Value} {host : String} (reads : ofValue v = .ok host) :
    ∃ name : String, (∀ c ∈ name.toList, isUnreserved c = true) ∧ (host = name ∨ host = name ++ "\n") := by
  unfold ofValue at reads
  split at reads
  next s =>
    simp only [ofText] at reads
    generalize reduce s.toList = cs at reads
    split at reads
    next formed =>
      simp only [wellFormed, Bool.and_eq_true, List.all_eq_true] at formed
      refine ⟨String.ofList (dropFinalNewline cs), ?_, ?_⟩
      · rw [String.toList_ofList]
        exact fun c member => isUnreserved_of_isHostChar (formed.1.2 c member)
      · rw [← Except.ok.inj reads]
        refine (eq_dropFinalNewline cs).imp (congrArg String.ofList) ?_
        intro whole
        exact (congrArg String.ofList whole).trans String.ofList_append
    · cases reads
  · cases reads

end DomainScout.Host
