import DomainScout.Proofs.Sql.Nesting
import DomainScout.Proofs.Text.Trim

/-!
# Clauses of joined conditions

Conditions that all have to hold are joined by `AND`. A reader who splits such a clause at every
`AND` that stands outside quotes and parentheses finds conditions again, but only the conditions
that were joined if none of them shows an `AND` of its own there.

Main statement: `conjuncts_texts`.
-/
namespace DomainScout.Sql

open Text

/-- The pieces between the `AND`s at depth zero. -/
def splitAnd (depth : Nat) : List Token → List (List Token)
  | [] => [[]]
  | token :: rest =>
    let pieces := splitAnd ((token.nest? depth).getD 0) rest
    if depth = 0 ∧ token.isKeyword "AND" then [] :: pieces else pieces.modifyHead (token :: ·)

/-- The conditions that a clause joins, without the blanks around them. -/
def conjuncts (sql : String) : List String :=
  match scan sql with
  | [] => []
  | first :: rest =>
    if first.isKeyword "WHERE" then (splitAnd 0 rest).map fun piece => trim (spell piece) else []

/-- Balanced tokens without an `AND` at depth zero stay together. -/
theorem splitAnd_append {depth : Nat} {tokens : List Token}
    (walk : nesting? depth tokens = some 0)
    (apart : (topLevel depth tokens).any (Token.isKeyword "AND") = false) (rest : List Token) :
    splitAnd depth (tokens ++ rest) = (splitAnd 0 rest).modifyHead (tokens ++ ·) := by
  -- The tokens end at depth zero but may start deeper, as the rest of any balanced tokens does.
  induction tokens generalizing depth with
  | nil =>
    cases walk
    rw [List.nil_append]
    cases splitAnd 0 rest <;> rfl
  | cons token tokens ih =>
    obtain ⟨next, nests, others⟩ := nesting?_cons walk
    have top : topLevel depth (token :: tokens) =
        if depth = 0 then token :: topLevel next tokens else topLevel next tokens := by
      simp [topLevel, nests]
    have stays : ¬(depth = 0 ∧ token.isKeyword "AND" = true) := by
      rintro ⟨zero, isAnd⟩
      rw [top, if_pos zero, List.any_cons, isAnd] at apart
      cases apart
    have further : (topLevel next tokens).any (Token.isKeyword "AND") = false := by
      rw [top] at apart
      split at apart
      · exact (Bool.or_eq_false_iff.mp apart).2
      · exact apart
    rw [List.cons_append, splitAnd, if_neg stays, nests, Option.getD_some, ih others further]
    cases splitAnd 0 rest <;> rfl

theorem splitAnd_and (rest : List Token) :
    splitAnd 0 (.word ['A', 'N', 'D'] :: rest) = [] :: splitAnd 0 rest := rfl

theorem no_and_of_not_joins {tokens : List Token} (apart : joins tokens = false) :
    (topLevel 0 tokens).any (Token.isKeyword "AND") = false := by
  rw [joins, List.any_eq_false] at apart
  rw [List.any_eq_false]
  intro token member isAnd
  apply apart token member
  rw [Token.isConnective, isAnd]
  rfl

/-! ### Texts without blanks at their ends -/

/-- The first character is there and is no blank. -/
def startsSolid (s : String) : Bool := s.toList.head?.any fun c => !isBlank c

/-- The last character is there and is no blank. -/
def endsSolid (s : String) : Bool := s.toList.getLast?.any fun c => !isBlank c

theorem startsSolid_append {s : String} (solid : startsSolid s = true) (t : String) :
    startsSolid (s ++ t) = true := by
  unfold startsSolid at solid ⊢
  cases chars : s.toList with
  | nil => simp [chars] at solid
  | cons c rest => simpa [chars] using solid

theorem endsSolid_append (s : String) {t : String} (solid : endsSolid t = true) :
    endsSolid (s ++ t) = true := by
  unfold endsSolid at solid ⊢
  cases last : t.toList.getLast? with
  | none => simp [last] at solid
  | some c => simpa [List.getLast?_append, last] using solid

theorem isBlank_of_isDigit {c : Char} (digit : c.isDigit = true) : isBlank c = false := by
  have range : 48 ≤ c.toNat ∧ c.toNat ≤ 57 := by
    simpa [Char.isDigit, UInt32.le_iff_toNat_le] using digit
  simp only [isBlank, blankRanges, CodeRanges.covers]
  simp
  omega

theorem startsSolid_quoteIdent (name : String) : startsSolid (quoteIdent name) = true := by
  have chars : (quoteIdent name).toList = '"' :: (doubleQuotes name.toList ++ ['"']) := by
    simp [quoteIdent]
  rw [startsSolid, chars]
  rfl

theorem endsSolid_quoteIdent (name : String) : endsSolid (quoteIdent name) = true := by
  have chars : (quoteIdent name).toList.getLast? = some '"' := by
    rw [quoteIdent, String.toList_ofList, List.getLast?_append]
    rfl
  rw [endsSolid, chars]
  decide

theorem endsSolid_placeholder (bound : Nat) : endsSolid (placeholder bound) = true := by
  have chars : (placeholder bound).toList = '$' :: Nat.toDigits 10 (bound + 1) := by
    simp [placeholder]
  have some : (placeholder bound).toList ≠ [] := by simp [chars]
  have last : (placeholder bound).toList.getLast some ∈ Nat.toDigits 10 (bound + 1) := by
    simp only [chars]
    rw [List.getLast_cons Nat.toDigits_ne_nil]
    exact List.getLast_mem _
  have digit := Nat.isDigit_of_mem_toDigits (by decide) (by decide) last
  rw [endsSolid, List.getLast?_eq_some_getLast some, Option.any_some, isBlank_of_isDigit digit]
  rfl

/-- Trimming a text that neither starts nor ends in a blank takes away the blanks around it. -/
theorem trim_padded {s : String} (starts : startsSolid s = true) (ends : endsSolid s = true)
    {before after : List Char} (left : ∀ c ∈ before, isBlank c = true)
    (right : ∀ c ∈ after, isBlank c = true) :
    trim (String.ofList (before ++ s.toList ++ after)) = s := by
  have first : s.toList.head?.any isBlank = false := by
    unfold startsSolid at starts
    cases head : s.toList.head? with
    | none => rfl
    | some c => simpa [head] using starts
  have last : s.toList.getLast?.any isBlank = false := by
    unfold endsSolid at ends
    cases final : s.toList.getLast? with
    | none => rfl
    | some c => simpa [final] using ends
  rw [trim, String.toList_ofList, trimBoth_padded left right first last, String.ofList_toList]

theorem Term.startsSolid_text (t : Term) (before : Nat) : startsSolid (t.text before) = true := by
  induction t with
  | column name => exact startsSolid_quoteIdent name
  | bound v => exact startsSolid_append (by decide) _
  | zero => exact (show startsSolid "0" = true by decide)
  | now => exact (show startsSolid "NOW()" = true by decide)
  | asText t ih => exact startsSolid_append ih _
  | lowered t ih | nonEmpty t ih | orZero t ih | yearsAgo t ih | daysAhead t ih =>
    exact startsSolid_append (startsSolid_append (by decide) _) _
  | tryCast t type ih | cast t type ih =>
    unfold text
    simp only [String.append_assoc]
    exact startsSolid_append (by decide) _

theorem Term.endsSolid_text (t : Term) (before : Nat) : endsSolid (t.text before) = true := by
  induction t with
  | column name => exact endsSolid_quoteIdent name
  | bound v => exact endsSolid_placeholder before
  | zero => exact (show endsSolid "0" = true by decide)
  | now => exact (show endsSolid "NOW()" = true by decide)
  | asText t ih | lowered t ih | nonEmpty t ih | orZero t ih | yearsAgo t ih | daysAhead t ih
  | tryCast t type ih | cast t type ih => exact endsSolid_append _ (by decide)

theorem Predicate.startsSolid_text (p : Predicate) (before : Nat) :
    startsSolid (p.text before) = true := by
  induction p generalizing before with
  | compare left comparison right =>
    simp only [text, String.append_assoc]
    exact startsSolid_append (left.startsSolid_text before) _
  | among t choices =>
    simp only [text, String.append_assoc]
    exact startsSolid_append (t.startsSolid_text before) _
  | ask t question =>
    simp only [text, String.append_assoc]
    exact startsSolid_append (t.startsSolid_text before) _
  | not p ih => exact startsSolid_append (by decide) _
  | and p q left right | or p q left right =>
    exact startsSolid_append (startsSolid_append (left before) _) _
  | group p ih => exact startsSolid_append (startsSolid_append (by decide) _) _

theorem Predicate.endsSolid_text (p : Predicate) (before : Nat) :
    endsSolid (p.text before) = true := by
  induction p generalizing before with
  | compare left comparison right => exact endsSolid_append _ (right.endsSolid_text _)
  | among t choices => exact endsSolid_append _ (by decide)
  | ask t question =>
    refine endsSolid_append _ ?_
    cases question <;> decide
  | not p ih => exact endsSolid_append _ (ih before)
  | and p q left right | or p q left right => exact endsSolid_append _ (right _)
  | group p ih => exact endsSolid_append _ (by decide)

/-! ### Reading a clause back -/

namespace Predicate

/-- The tokens of conditions that come after `before` values. -/
def allTokens (before : Nat) : List Predicate → List (List Token)
  | [] => []
  | p :: rest => p.tokens before :: allTokens (before + p.values.length) rest

theorem reads_texts (ps : List Predicate) (before : Nat) :
    List.Forall₂ Reads (texts before ps) (allTokens before ps) := by
  induction ps generalizing before with
  | nil => exact .nil
  | cons p rest ih => exact .cons (p.reads_text before) (ih _)

/-- A condition between blanks is one piece of a clause. -/
private theorem splitAnd_padded {p : Predicate} (closed : p.isClosed = true) (before : Nat)
    (pad rest : List Token) (blanks : pad = [] ∨ pad = [.symbol ' ']) :
    splitAnd 0 (.symbol ' ' :: p.tokens before ++ pad ++ rest) =
      (splitAnd 0 rest).modifyHead ((.symbol ' ' :: p.tokens before ++ pad) ++ ·) := by
  have lead : nesting? 0 [Token.symbol ' '] = some 0 := rfl
  have inner : nesting? 0 (p.tokens before) = some 0 := p.balanced_tokens before
  have upTo : nesting? 0 ([.symbol ' '] ++ p.tokens before) = some 0 := by
    rw [nesting?_append lead]
    exact inner
  have walk : nesting? 0 ([.symbol ' '] ++ p.tokens before ++ pad) = some 0 := by
    rw [nesting?_append upTo]
    rcases blanks with rfl | rfl <;> rfl
  have apart : (topLevel 0 ([.symbol ' '] ++ p.tokens before ++ pad)).any
      (Token.isKeyword "AND") = false := by
    have condition := no_and_of_not_joins (not_joins_of_isClosed closed before)
    rw [topLevel_append upTo, topLevel_append lead, List.any_append, List.any_append, condition]
    rcases blanks with rfl | rfl <;> rfl
  exact splitAnd_append walk apart rest

private theorem trim_piece (p : Predicate) (before : Nat) (pad : List Token)
    (blanks : pad = [] ∨ pad = [.symbol ' ']) :
    trim (spell (.symbol ' ' :: p.tokens before ++ pad)) = p.text before := by
  have spelled : (p.tokens before).flatMap Token.spelling = (p.text before).toList := by
    rw [← (p.reads_text before).scanned, spelling_scan]
  have chars : spell (.symbol ' ' :: p.tokens before ++ pad) =
      String.ofList ([' '] ++ (p.text before).toList ++ pad.flatMap Token.spelling) := by
    rw [spell, List.flatMap_append, List.flatMap_cons, spelled]
    rfl
  have blank : isBlank ' ' = true := by decide
  rw [chars]
  refine trim_padded (p.startsSolid_text before) (p.endsSolid_text before) ?_ ?_
  · simp [blank]
  · rcases blanks with rfl | rfl
    · simp
    · simp [Token.spelling, blank]

/-- Splitting what joined conditions leaves the conditions, as they were written. -/
private theorem pieces_joined (p : Predicate) (rest : List Predicate)
    (closed : ∀ q ∈ p :: rest, q.isClosed = true) (before : Nat) :
    (splitAnd 0 (.symbol ' ' :: (scan " AND ").intercalate (allTokens before (p :: rest)))).map
      (fun piece => trim (spell piece)) = texts before (p :: rest) := by
  -- Each piece starts with the blank after the word before it, so the statement has one in front;
  -- the last piece has no blank at its end.
  induction rest generalizing p before with
  | nil =>
    have piece := splitAnd_padded (closed p List.mem_cons_self) before [] [] (.inl rfl)
    simp only [List.append_nil] at piece
    simp only [allTokens, List.intercalate_singleton, texts]
    rw [piece]
    simpa [splitAnd] using trim_piece p before [] (.inl rfl)
  | cons q rest ih =>
    have others : ∀ r ∈ q :: rest, r.isClosed = true := fun r member => closed r (.tail p member)
    have joint : (scan " AND ").intercalate (allTokens before (p :: q :: rest)) =
        p.tokens before ++ [.symbol ' '] ++ (.word ['A', 'N', 'D'] :: .symbol ' ' ::
          (scan " AND ").intercalate (allTokens (before + p.values.length) (q :: rest))) := by
      have blanks : scan " AND " = [.symbol ' ', .word ['A', 'N', 'D'], .symbol ' '] := by decide
      simp only [allTokens, List.intercalate_cons_cons]
      simp [blanks]
    rw [joint, ← List.cons_append, ← List.cons_append,
      splitAnd_padded (closed p List.mem_cons_self) before _ _ (.inr rfl), splitAnd_and,
      List.modifyHead_cons, List.append_nil, List.map_cons, trim_piece p before _ (.inr rfl),
      ih q others]
    rfl

/-- A clause of conditions that keep their connectives in parentheses splits into just these
conditions. -/
theorem conjuncts_texts (ps : List Predicate) (closed : ∀ p ∈ ps, p.isClosed = true)
    (before : Nat) (given : ps ≠ []) :
    conjuncts ("WHERE " ++ " AND ".intercalate (texts before ps)) = texts before ps := by
  cases ps with
  | nil => exact absurd rfl given
  | cons p rest =>
    have read := (Reads.intercalate " AND " (reads_texts (p :: rest) before)).preceded "WHERE "
    have start : scan "WHERE " = [.word ['W', 'H', 'E', 'R', 'E'], .symbol ' '] := by decide
    have keyword : (Token.word ['W', 'H', 'E', 'R', 'E']).isKeyword "WHERE" = true := by decide
    have whole : scan ("WHERE " ++ " AND ".intercalate (texts before (p :: rest))) =
        .word ['W', 'H', 'E', 'R', 'E'] :: .symbol ' ' ::
          (scan " AND ").intercalate (allTokens before (p :: rest)) := by
      rw [read.scanned, start]
      rfl
    rw [conjuncts, whole]
    simp only [keyword, if_true]
    exact pieces_joined p rest closed before

example : conjuncts "WHERE \"a AND (b\" = $1 AND (c > 0 AND d)" =
    ["\"a AND (b\" = $1", "(c > 0 AND d)"] := by cbv

end Predicate

end DomainScout.Sql
