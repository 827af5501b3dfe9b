import DomainScout.Proofs.Sql.Scan
import DomainScout.Sql.Predicate

/-!
# How conditions read

A condition is written as a text, and the text reads as tokens that follow the condition's tree.

Main statement: `Predicate.reads_text`.
-/
namespace DomainScout.Sql

namespace Reads

variable {s t : String} {ts us : List Token}

theorem followed_asType (read : Reads s ts) (type : SqlType) :
    Reads (s ++ " AS " ++ type.name ++ ")") (ts ++ scan (" AS " ++ type.name ++ ")")) := by
  have closed : (modeAfter (" AS " ++ type.name ++ ")")).isOutside = true := by
    cases type <;> decide
  have apart : startsApart (" AS " ++ type.name ++ ")") = true := by cases type <;> decide
  have whole : s ++ " AS " ++ type.name ++ ")" = s ++ (" AS " ++ type.name ++ ")") := by
    simp only [String.append_assoc]
  rw [whole]
  exact read.followed _ closed apart

theorem joined_sign (first : Reads s ts) (comparison : Comparison) (second : Reads t us) :
    Reads (s ++ " " ++ comparison.sign ++ " " ++ t)
      (ts ++ scan (" " ++ comparison.sign ++ " ") ++ us) := by
  have settled : modeAfter (" " ++ comparison.sign ++ " ") = .between := by
    cases comparison <;> decide
  have apart : startsApart (" " ++ comparison.sign ++ " ") = true := by
    cases comparison <;> decide
  have whole : s ++ " " ++ comparison.sign ++ " " ++ t =
      s ++ (" " ++ comparison.sign ++ " ") ++ t := by
    simp only [String.append_assoc]
  rw [whole]
  exact first.joined _ second settled apart

theorem followed_words (read : Reads s ts) (question : Question) :
    Reads (s ++ " " ++ question.words) (ts ++ scan (" " ++ question.words)) := by
  have closed : (modeAfter (" " ++ question.words)).isOutside = true := by
    cases question <;> decide
  have apart : startsApart (" " ++ question.words) = true := by cases question <;> decide
  rw [String.append_assoc]
  exact read.followed _ closed apart

end Reads

namespace Term

/-- The tokens of an expression that comes after `bound` values. -/
def tokens (before : Nat) : Term → List Token
  | column name => [.quoted .identifier name.toList]
  | asText t => t.tokens before ++ scan "::text"
  | lowered t => scan "LOWER(" ++ t.tokens before ++ scan ")"
  | nonEmpty t => scan "NULLIF(" ++ t.tokens before ++ scan ", '')"
  | tryCast t type => scan "TRY_CAST(" ++ t.tokens before ++ scan (" AS " ++ type.name ++ ")")
  | orZero t => scan "COALESCE(" ++ t.tokens before ++ scan ", 0)"
  | bound _ => [referenceAfter before]
  | cast t type => scan "CAST(" ++ t.tokens before ++ scan (" AS " ++ type.name ++ ")")
  | zero => scan "0"
  | now => scan "NOW()"
  | yearsAgo t => scan "CURRENT_DATE - " ++ t.tokens before ++ scan " * INTERVAL '1 year'"
  | daysAhead t => scan "NOW() + " ++ t.tokens before ++ scan " * INTERVAL '1 day'"

/-- The text of an expression reads as its tokens. -/
theorem reads_text (t : Term) (before : Nat) : Reads (t.text before) (t.tokens before) := by
  induction t with
  | column name => exact reads_quoteIdent name
  | asText t ih => exact ih.followed "::text"
  | lowered t ih => exact (ih.preceded "LOWER(").followed ")"
  | nonEmpty t ih => exact (ih.preceded "NULLIF(").followed ", '')"
  | tryCast t type ih => exact (ih.preceded "TRY_CAST(").followed_asType type
  | orZero t ih => exact (ih.preceded "COALESCE(").followed ", 0)"
  | bound v => exact reads_placeholder before
  | cast t type ih => exact (ih.preceded "CAST(").followed_asType type
  | zero => exact .fixed "0"
  | now => exact .fixed "NOW()"
  | yearsAgo t ih => exact (ih.preceded "CURRENT_DATE - ").followed " * INTERVAL '1 year'"
  | daysAhead t ih => exact (ih.preceded "NOW() + ").followed " * INTERVAL '1 day'"

end Term

/-- The tokens of references to `count` values that come after `bound` others. -/
def referenceTokens (bound : Nat) : Nat → List (List Token)
  | 0 => []
  | count + 1 => [referenceAfter bound] :: referenceTokens (bound + 1) count

/-- The tokens of a list of such references. -/
def referenceList (bound count : Nat) : List Token :=
  (scan ", ").intercalate (referenceTokens bound count)

theorem referenceList_succ (bound count : Nat) :
    referenceList bound (count + 2) =
      referenceAfter bound :: (scan ", " ++ referenceList (bound + 1) (count + 1)) := by
  simp [referenceList, referenceTokens, List.intercalate_cons_cons]

private theorem reads_placeholders (bound count : Nat) :
    List.Forall₂ Reads (placeholders bound count) (referenceTokens bound count) := by
  induction count generalizing bound with
  | zero => exact .nil
  | succ count ih => exact .cons (reads_placeholder bound) (ih (bound + 1))

theorem reads_referenceList (bound count : Nat) :
    Reads (", ".intercalate (placeholders bound count)) (referenceList bound count) :=
  .intercalate ", " (reads_placeholders bound count)

namespace Predicate

/-- The tokens of a condition that comes after `before` values. -/
def tokens (before : Nat) : Predicate → List Token
  | compare left comparison right =>
    left.tokens before ++ scan (" " ++ comparison.sign ++ " ")
      ++ right.tokens (before + left.values.length)
  | among t choices =>
    t.tokens before ++ scan " IN ("
      ++ referenceList (before + t.values.length) choices.length ++ scan ")"
  | ask t question => t.tokens before ++ scan (" " ++ question.words)
  | not p => scan "NOT " ++ p.tokens before
  | and p q => p.tokens before ++ scan " AND " ++ q.tokens (before + p.values.length)
  | or p q => p.tokens before ++ scan " OR " ++ q.tokens (before + p.values.length)
  | group p => scan "(" ++ p.tokens before ++ scan ")"

/-- The text of a condition reads as its tokens. -/
theorem reads_text (p : Predicate) (before : Nat) : Reads (p.text before) (p.tokens before) := by
  induction p generalizing before with
  | compare left comparison right =>
    exact (left.reads_text before).joined_sign comparison
      (right.reads_text (before + left.values.length))
  | among t choices =>
    have list := reads_referenceList (before + t.values.length) choices.length
    exact ((t.reads_text before).joined " IN (" list).followed ")"
  | ask t question => exact (t.reads_text before).followed_words question
  | not p ih => exact (ih before).preceded "NOT "
  | and p q left right => exact (left before).joined " AND " (right _)
  | or p q left right => exact (left before).joined " OR " (right _)
  | group p ih => exact ((ih before).preceded "(").followed ")"

end Predicate

end DomainScout.Sql
