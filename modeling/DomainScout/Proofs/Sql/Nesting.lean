import DomainScout.Proofs.Sql.Reading

/-!
# Parentheses and connectives

The parentheses of a text outside its quotes are counted from left to right. What stands at depth
zero decides how a condition joins with others: a condition that shows a connective there changes
its meaning next to another condition.

Main statements: `Predicate.balanced_tokens`, and `Predicate.not_joins_of_isClosed` for conditions
that keep their connectives in parentheses.
-/
namespace DomainScout.Sql

namespace Token

/-- The depth of parentheses after a token, unless it closes one that is not open. -/
def nest? (depth : Nat) : Token → Option Nat
  | symbol '(' => some (depth + 1)
  | symbol ')' =>
    match depth with
    | 0 => none
    | outer + 1 => some outer
  | _ => some depth

/-- The token is a keyword, in any letter case. -/
def isKeyword (keyword : String) : Token → Bool
  | word letters => letters.map Char.toUpper == keyword.toList
  | _ => false

/-- The token joins two conditions. -/
def isConnective (token : Token) : Bool := token.isKeyword "AND" || token.isKeyword "OR"

theorem nest?_succ {token : Token} {depth after : Nat} (nests : token.nest? depth = some after) :
    token.nest? (depth + 1) = some (after + 1) := by
  unfold nest? at nests ⊢
  split at nests
  · cases nests
    rfl
  · cases depth with
    | zero => cases nests
    | succ outer =>
      cases nests
      rfl
  · cases nests
    rfl

end Token

/-- The depth of parentheses after some tokens, unless one closes a parenthesis that is not open. -/
def nesting? (depth : Nat) (tokens : List Token) : Option Nat :=
  tokens.foldlM Token.nest? depth

/-- The tokens before which no parenthesis is open. -/
def topLevel (depth : Nat) : List Token → List Token
  | [] => []
  | token :: rest =>
    let more := ((token.nest? depth).map fun after => topLevel after rest).getD []
    if depth = 0 then token :: more else more

/-- Every parenthesis is closed after it was opened. -/
def Balanced (tokens : List Token) : Prop := nesting? 0 tokens = some 0

instance (tokens : List Token) : Decidable (Balanced tokens) :=
  inferInstanceAs (Decidable (nesting? 0 tokens = some 0))

/-- A connective stands outside all parentheses. -/
def joins (tokens : List Token) : Bool := (topLevel 0 tokens).any Token.isConnective

section Nesting

variable {xs ys : List Token} {depth after : Nat}

theorem nesting?_append (walk : nesting? depth xs = some after) (ys : List Token) :
    nesting? depth (xs ++ ys) = nesting? after ys := by
  rw [nesting?, List.foldlM_append]
  change (nesting? depth xs).bind _ = _
  rw [walk]
  rfl

theorem nesting?_cons {token : Token} (walk : nesting? depth (token :: xs) = some after) :
    ∃ next, token.nest? depth = some next ∧ nesting? next xs = some after := by
  simp only [nesting?, List.foldlM_cons] at walk
  exact Option.bind_eq_some_iff.mp walk

theorem nesting?_succ (walk : nesting? depth xs = some after) :
    nesting? (depth + 1) xs = some (after + 1) := by
  induction xs generalizing depth with
  | nil =>
    cases walk
    rfl
  | cons token xs ih =>
    obtain ⟨next, nests, others⟩ := nesting?_cons walk
    simp only [nesting?, List.foldlM_cons, Token.nest?_succ nests]
    exact ih others

theorem topLevel_append (walk : nesting? depth xs = some after) (ys : List Token) :
    topLevel depth (xs ++ ys) = topLevel depth xs ++ topLevel after ys := by
  induction xs generalizing depth with
  | nil =>
    cases walk
    rfl
  | cons token xs ih =>
    obtain ⟨next, nests, others⟩ := nesting?_cons walk
    simp only [List.cons_append, topLevel, nests, Option.map_some, Option.getD_some, ih others]
    split <;> rfl

/-- Tokens that could stand at depth zero show nothing there once a parenthesis is open around
them. -/
theorem topLevel_succ (walk : nesting? depth xs = some after) : topLevel (depth + 1) xs = [] := by
  induction xs generalizing depth with
  | nil => rfl
  | cons token xs ih =>
    obtain ⟨next, nests, others⟩ := nesting?_cons walk
    simp [topLevel, Token.nest?_succ nests, ih others]

theorem topLevel_subset (depth : Nat) (tokens : List Token) : topLevel depth tokens ⊆ tokens := by
  -- No walk is given here: the tokens may close more parentheses than they open.
  induction tokens generalizing depth with
  | nil => exact fun _ member => member
  | cons token rest ih =>
    intro other member
    have inRest : ∀ next, (token.nest? depth).map (topLevel · rest) = some next →
        other ∈ next → other ∈ rest := by
      intro next walked inNext
      obtain ⟨after, _, rfl⟩ := Option.map_eq_some_iff.mp walked
      exact ih after inNext
    cases walked : (token.nest? depth).map (topLevel · rest) with
    | none =>
      simp only [topLevel, walked, Option.getD_none] at member
      split at member
      · exact List.mem_cons.mpr (.inl (List.mem_singleton.mp member))
      · cases member
    | some next =>
      simp only [topLevel, walked, Option.getD_some] at member
      split at member
      · rcases List.mem_cons.mp member with same | inNext
        · exact List.mem_cons.mpr (.inl same)
        · exact .tail token (inRest next walked inNext)
      · exact .tail token (inRest next walked member)

theorem Balanced.append (first : Balanced xs) (second : Balanced ys) : Balanced (xs ++ ys) := by
  rw [Balanced, nesting?_append first]
  exact second

theorem Balanced.enclosed {opening closing : List Token} (inner : Balanced xs)
    (opens : nesting? 0 opening = some 1) (closes : nesting? 1 closing = some 0) :
    Balanced (opening ++ xs ++ closing) := by
  have deeper : nesting? 1 xs = some 1 := nesting?_succ inner
  rw [Balanced, List.append_assoc, nesting?_append opens, nesting?_append deeper]
  exact closes

theorem not_joins_of_plain (plain : xs.any Token.isConnective = false) : joins xs = false := by
  rw [List.any_eq_false] at plain
  rw [joins, List.any_eq_false]
  exact fun token member => plain token (topLevel_subset 0 xs member)

end Nesting

/-! ### Expressions and conditions -/

theorem balanced_asType (type : SqlType) :
    nesting? 1 (scan (" AS " ++ type.name ++ ")")) = some 0 := by
  cases type <;> decide

theorem plain_asType (type : SqlType) :
    (scan (" AS " ++ type.name ++ ")")).any Token.isConnective = false := by
  cases type <;> decide

theorem balanced_sign (comparison : Comparison) :
    Balanced (scan (" " ++ comparison.sign ++ " ")) := by
  unfold Balanced
  cases comparison <;> decide

theorem plain_sign (comparison : Comparison) :
    (scan (" " ++ comparison.sign ++ " ")).any Token.isConnective = false := by
  cases comparison <;> decide

theorem balanced_words (question : Question) : Balanced (scan (" " ++ question.words)) := by
  unfold Balanced
  cases question <;> decide

theorem plain_words (question : Question) :
    (scan (" " ++ question.words)).any Token.isConnective = false := by
  cases question <;> decide

theorem balanced_referenceList (bound count : Nat) : Balanced (referenceList bound count) := by
  induction count generalizing bound with
  | zero => rfl
  | succ count ih =>
    cases count with
    | zero => rfl
    | succ count =>
      have first : Balanced (referenceAfter bound :: scan ", ") := rfl
      rw [referenceList_succ, ← List.cons_append]
      exact first.append (ih (bound + 1))

theorem plain_referenceList (bound count : Nat) :
    (referenceList bound count).any Token.isConnective = false := by
  induction count generalizing bound with
  | zero => rfl
  | succ count ih =>
    cases count with
    | zero => rfl
    | succ count =>
      have first : (referenceAfter bound :: scan ", ").any Token.isConnective = false := rfl
      rw [referenceList_succ, ← List.cons_append, List.any_append, first, ih]
      rfl

namespace Term

theorem balanced_tokens (t : Term) (before : Nat) : Balanced (t.tokens before) := by
  induction t with
  | column name => rfl
  | bound v => rfl
  | zero => rfl
  | now => rfl
  | asText t ih => exact ih.append rfl
  | lowered t ih | nonEmpty t ih | orZero t ih => exact ih.enclosed (by decide) (by decide)
  | tryCast t type ih | cast t type ih => exact ih.enclosed (by decide) (balanced_asType type)
  | yearsAgo t ih | daysAhead t ih =>
    have start {fix : String} (balanced : Balanced (scan fix)) := balanced.append ih
    exact (start (by decide)).append (by decide)

/-- No connective stands in an expression, not even in parentheses. -/
theorem plain_tokens (t : Term) (before : Nat) :
    (t.tokens before).any Token.isConnective = false := by
  induction t with
  | column name => rfl
  | bound v => rfl
  | zero => rfl
  | now => rfl
  | tryCast t type ih | cast t type ih =>
    simp only [tokens, List.any_append, ih, plain_asType, Bool.or_false]
    decide
  | asText t ih | lowered t ih | nonEmpty t ih | orZero t ih | yearsAgo t ih | daysAhead t ih =>
    simp only [tokens, List.any_append, ih]
    decide

end Term

namespace Predicate

/-- The connectives of a condition all stand in parentheses. -/
def isClosed : Predicate → Bool
  | compare _ _ _ | among _ _ | ask _ _ | group _ => true
  | not p => p.isClosed
  | and _ _ | or _ _ => false

theorem balanced_tokens (p : Predicate) (before : Nat) : Balanced (p.tokens before) := by
  induction p generalizing before with
  | compare left comparison right =>
    exact ((left.balanced_tokens before).append (balanced_sign comparison)).append
      (right.balanced_tokens _)
  | among t choices =>
    have list : Balanced (scan " IN (" ++ referenceList _ choices.length ++ scan ")") :=
      (balanced_referenceList (before + t.values.length) choices.length).enclosed
        (by decide) (by decide)
    have all := (t.balanced_tokens before).append list
    simpa only [tokens, List.append_assoc] using all
  | ask t question => exact (t.balanced_tokens before).append (balanced_words question)
  | not p ih =>
    have start : Balanced (scan "NOT ") := by decide
    exact start.append (ih before)
  | and p q left right | or p q left right =>
    exact ((left before).append (by decide)).append (right _)
  | group p ih => exact (ih before).enclosed (by decide) (by decide)

/-- A condition that keeps its connectives in parentheses shows none outside. -/
theorem not_joins_of_isClosed {p : Predicate} (closed : p.isClosed = true) (before : Nat) :
    joins (p.tokens before) = false := by
  induction p with
  | compare left comparison right =>
    refine not_joins_of_plain ?_
    simp only [tokens, List.any_append, Term.plain_tokens, plain_sign, Bool.or_false]
  | among t choices =>
    refine not_joins_of_plain ?_
    simp only [tokens, List.any_append, Term.plain_tokens, plain_referenceList]
    decide
  | ask t question =>
    refine not_joins_of_plain ?_
    simp only [tokens, List.any_append, Term.plain_tokens, plain_words, Bool.or_false]
  | not p ih =>
    have start : nesting? 0 (scan "NOT ") = some 0 := by decide
    have nothing : (topLevel 0 (scan "NOT ")).any Token.isConnective = false := by decide
    have inner : (topLevel 0 (p.tokens before)).any Token.isConnective = false := ih closed
    rw [joins, tokens, topLevel_append start, List.any_append, nothing, inner]
    rfl
  -- A connective outside parentheses is just what a closed condition does not have.
  | and p q => cases closed
  | or p q => cases closed
  | group p ih =>
    -- Inside the parentheses nothing is at depth zero, so only the fixed text counts.
    have walk : nesting? 0 (p.tokens before) = some 0 := p.balanced_tokens before
    have opens : nesting? 0 (scan "(") = some 1 := by decide
    have upTo : nesting? 0 (scan "(" ++ p.tokens before) = some 1 := by
      rw [nesting?_append opens]
      exact nesting?_succ walk
    rw [joins, tokens, topLevel_append upTo, topLevel_append opens, topLevel_succ walk]
    decide

end Predicate

end DomainScout.Sql
