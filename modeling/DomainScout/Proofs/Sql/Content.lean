import DomainScout.Proofs.Sql.Reading

/-!
# What a text holds

The tokens of a text tell which identifiers it quotes and which values it refers to, and they let
the numbers of its placeholders be increased. For the text of a condition, these follow from the
condition's tree.

Main statements: `Predicate.identifiers_text`, `Predicate.placeholdersIn_text` and
`Predicate.renumber_text`.
-/
namespace DomainScout.Sql

namespace Token

/-- The name that a token quotes. -/
def identifier? : Token → Option String
  | quoted .identifier name => some (String.ofList name)
  | _ => none

/-- The placeholder that a token is. -/
def placeholder? : Token → Option String
  | reference digits => some (String.ofList ('$' :: digits))
  | _ => none

/-- The token with its number, if it refers to a value, increased. -/
def renumber (more : Nat) : Token → Token
  | reference digits => reference (Nat.toDigits 10 (Nat.ofDigitChars 10 digits 0 + more))
  | token => token

end Token

/-- The names that a text quotes as identifiers, in order. -/
def identifiers (s : String) : List String := (scan s).filterMap Token.identifier?

/-- The placeholders of a text, in order. -/
def placeholdersIn (s : String) : List String := (scan s).filterMap Token.placeholder?

/-- The text with the numbers of its placeholders increased. -/
def renumber (more : Nat) (s : String) : String := spell ((scan s).map (Token.renumber more))

/-- The text quotes no identifier and refers to no value. -/
def isFixed (s : String) : Bool :=
  (scan s).all fun token => token.identifier?.isNone && token.placeholder?.isNone

section Fixed

variable {s : String} (fix : isFixed s = true)
include fix

private theorem none_of_isFixed {token : Token} (member : token ∈ scan s) :
    token.identifier? = none ∧ token.placeholder? = none := by
  have both := List.all_eq_true.mp fix token member
  simpa using both

theorem identifiers_fixed : (scan s).filterMap Token.identifier? = [] := by
  rw [List.filterMap_eq_nil_iff]
  exact fun token member => (none_of_isFixed fix member).1

theorem placeholders_fixed : (scan s).filterMap Token.placeholder? = [] := by
  rw [List.filterMap_eq_nil_iff]
  exact fun token member => (none_of_isFixed fix member).2

theorem renumber_fixed (more : Nat) : (scan s).map (Token.renumber more) = scan s := by
  conv_rhs => rw [← List.map_id (scan s)]
  refine List.map_congr_left fun token member => ?_
  cases token with
  | reference digits => cases (none_of_isFixed fix member).2
  | _ => rfl

end Fixed

theorem isFixed_asType (type : SqlType) : isFixed (" AS " ++ type.name ++ ")") = true := by
  cases type <;> decide

theorem isFixed_sign (comparison : Comparison) :
    isFixed (" " ++ comparison.sign ++ " ") = true := by
  cases comparison <;> decide

theorem isFixed_words (question : Question) : isFixed (" " ++ question.words) = true := by
  cases question <;> decide

/-! ### References -/

theorem placeholder?_referenceAfter (bound : Nat) :
    (referenceAfter bound).placeholder? = some (placeholder bound) := by
  simp [referenceAfter, Token.placeholder?, placeholder, ← String.toList_inj]

theorem renumber_referenceAfter (more bound : Nat) :
    (referenceAfter bound).renumber more = referenceAfter (bound + more) := by
  have sum : bound + 1 + more = bound + more + 1 := by omega
  simp [referenceAfter, Token.renumber, sum]

theorem placeholders_append (bound first more : Nat) :
    placeholders bound (first + more) =
      placeholders bound first ++ placeholders (bound + first) more := by
  induction first generalizing bound with
  | zero => simp [placeholders]
  | succ first ih =>
    have sum : bound + 1 + first = bound + (first + 1) := by omega
    rw [Nat.succ_add, placeholders, ih, placeholders, List.cons_append, sum]

theorem identifiers_referenceList (bound count : Nat) :
    (referenceList bound count).filterMap Token.identifier? = [] := by
  induction count generalizing bound with
  | zero => rfl
  | succ count ih =>
    cases count with
    | zero => rfl
    | succ count =>
      rw [referenceList_succ, List.filterMap_cons_none rfl, List.filterMap_append, ih,
        identifiers_fixed (by decide), List.append_nil]

theorem placeholders_referenceList (bound count : Nat) :
    (referenceList bound count).filterMap Token.placeholder? = placeholders bound count := by
  induction count generalizing bound with
  | zero => rfl
  | succ count ih =>
    cases count with
    | zero => simp [referenceList, referenceTokens, placeholder?_referenceAfter, placeholders]
    | succ count =>
      rw [referenceList_succ, List.filterMap_cons_some (placeholder?_referenceAfter bound),
        List.filterMap_append, ih, placeholders_fixed (by decide), List.nil_append]
      rfl

theorem renumber_referenceList (more bound count : Nat) :
    (referenceList bound count).map (Token.renumber more) = referenceList (bound + more) count := by
  induction count generalizing bound with
  | zero => rfl
  | succ count ih =>
    cases count with
    | zero => simp [referenceList, referenceTokens, renumber_referenceAfter]
    | succ count =>
      have sum : bound + 1 + more = bound + more + 1 := by omega
      rw [referenceList_succ, List.map_cons, List.map_append, ih, renumber_referenceAfter,
        renumber_fixed (by decide), sum, ← referenceList_succ]

/-! ### Expressions -/

namespace Term

/-- The columns that an expression names. -/
def columns : Term → List String
  | column name => [name]
  | asText t | lowered t | nonEmpty t | tryCast t _ | orZero t | cast t _ | yearsAgo t
  | daysAhead t => t.columns
  | bound _ | zero | now => []

theorem identifiers_tokens (t : Term) (before : Nat) :
    (t.tokens before).filterMap Token.identifier? = t.columns := by
  -- The fixed text around the inner expression is known but for the name of a type.
  induction t with
  | column name => simp [tokens, columns, Token.identifier?]
  | bound v => rfl
  | zero => rfl
  | now => rfl
  | tryCast t type ih | cast t type ih =>
    simp only [tokens, columns, List.filterMap_append, ih, identifiers_fixed (isFixed_asType type),
      List.append_nil]
    rw [identifiers_fixed (by decide), List.nil_append]
  | asText t ih | lowered t ih | nonEmpty t ih | orZero t ih | yearsAgo t ih | daysAhead t ih =>
    simp (disch := decide) only [tokens, columns, List.filterMap_append, ih, identifiers_fixed,
      List.append_nil, List.nil_append]

theorem placeholders_tokens (t : Term) (before : Nat) :
    (t.tokens before).filterMap Token.placeholder? = placeholders before t.values.length := by
  induction t with
  | column name => rfl
  | bound v => simp [tokens, placeholder?_referenceAfter, values, placeholders]
  | zero => rfl
  | now => rfl
  | tryCast t type ih | cast t type ih =>
    simp only [tokens, values, List.filterMap_append, ih, placeholders_fixed (isFixed_asType type),
      List.append_nil]
    rw [placeholders_fixed (by decide), List.nil_append]
  | asText t ih | lowered t ih | nonEmpty t ih | orZero t ih | yearsAgo t ih | daysAhead t ih =>
    simp (disch := decide) only [tokens, values, List.filterMap_append, ih, placeholders_fixed,
      List.append_nil, List.nil_append]

theorem renumber_tokens (t : Term) (more before : Nat) :
    (t.tokens before).map (Token.renumber more) = t.tokens (before + more) := by
  induction t with
  | column name => rfl
  | bound v => simp [tokens, renumber_referenceAfter]
  | zero => rfl
  | now => rfl
  | tryCast t type ih | cast t type ih =>
    simp only [tokens, List.map_append, ih, renumber_fixed (isFixed_asType type)]
    rw [renumber_fixed (by decide)]
  | asText t ih | lowered t ih | nonEmpty t ih | orZero t ih | yearsAgo t ih | daysAhead t ih =>
    simp (disch := decide) only [tokens, List.map_append, ih, renumber_fixed]

end Term

/-! ### Conditions -/

namespace Predicate

/-- The columns that a condition names. -/
def columns : Predicate → List String
  | compare left _ right => left.columns ++ right.columns
  | among t _ | ask t _ => t.columns
  | not p | group p => p.columns
  | and p q | or p q => p.columns ++ q.columns

theorem identifiers_tokens (p : Predicate) (before : Nat) :
    (p.tokens before).filterMap Token.identifier? = p.columns := by
  induction p generalizing before with
  | compare left comparison right =>
    simp only [tokens, columns, List.filterMap_append, Term.identifiers_tokens,
      identifiers_fixed (isFixed_sign comparison), List.append_nil]
  | among t choices =>
    simp (disch := decide) only [tokens, columns, List.filterMap_append, Term.identifiers_tokens,
      identifiers_referenceList, identifiers_fixed, List.append_nil]
  | ask t question =>
    simp only [tokens, columns, List.filterMap_append, Term.identifiers_tokens,
      identifiers_fixed (isFixed_words question), List.append_nil]
  | not p ih | group p ih =>
    simp (disch := decide) only [tokens, columns, List.filterMap_append, ih, identifiers_fixed,
      List.append_nil, List.nil_append]
  | and p q left right | or p q left right =>
    simp (disch := decide) only [tokens, columns, List.filterMap_append, left, right,
      identifiers_fixed, List.append_nil]

/-- The placeholders of a condition count on from those before it, one for each of its values. -/
theorem placeholders_tokens (p : Predicate) (before : Nat) :
    (p.tokens before).filterMap Token.placeholder? = placeholders before p.values.length := by
  induction p generalizing before with
  | compare left comparison right =>
    simp only [tokens, values, List.filterMap_append, Term.placeholders_tokens,
      placeholders_fixed (isFixed_sign comparison), List.append_nil, List.length_append,
      placeholders_append]
  | among t choices =>
    simp (disch := decide) only [tokens, values, List.filterMap_append, Term.placeholders_tokens,
      placeholders_referenceList, placeholders_fixed, List.append_nil, List.length_append,
      List.length_map, placeholders_append]
  | ask t question =>
    simp only [tokens, values, List.filterMap_append, Term.placeholders_tokens,
      placeholders_fixed (isFixed_words question), List.append_nil]
  | not p ih | group p ih =>
    simp (disch := decide) only [tokens, values, List.filterMap_append, ih, placeholders_fixed,
      List.append_nil, List.nil_append]
  | and p q left right | or p q left right =>
    simp (disch := decide) only [tokens, values, List.filterMap_append, left, right,
      placeholders_fixed, List.append_nil, List.length_append, placeholders_append]

/-- Increasing the numbers in a condition is writing it after that many more values. -/
theorem renumber_tokens (p : Predicate) (more before : Nat) :
    (p.tokens before).map (Token.renumber more) = p.tokens (before + more) := by
  induction p generalizing before with
  | compare left comparison right =>
    simp only [tokens, List.map_append, Term.renumber_tokens,
      renumber_fixed (isFixed_sign comparison), Nat.add_right_comm]
  | among t choices =>
    simp (disch := decide) only [tokens, List.map_append, Term.renumber_tokens,
      renumber_referenceList, renumber_fixed, Nat.add_right_comm]
  | ask t question =>
    simp only [tokens, List.map_append, Term.renumber_tokens,
      renumber_fixed (isFixed_words question)]
  | not p ih | group p ih =>
    simp (disch := decide) only [tokens, List.map_append, ih, renumber_fixed]
  | and p q left right | or p q left right =>
    simp (disch := decide) only [tokens, List.map_append, left, right, renumber_fixed,
      Nat.add_right_comm]

theorem identifiers_text (p : Predicate) (before : Nat) :
    identifiers (p.text before) = p.columns := by
  rw [identifiers, (p.reads_text before).scanned, identifiers_tokens]

theorem placeholdersIn_text (p : Predicate) (before : Nat) :
    placeholdersIn (p.text before) = placeholders before p.values.length := by
  rw [placeholdersIn, (p.reads_text before).scanned, placeholders_tokens]

theorem renumber_text (p : Predicate) (more before : Nat) :
    renumber more (p.text before) = p.text (before + more) := by
  rw [renumber, (p.reads_text before).scanned, renumber_tokens,
    ← (p.reads_text (before + more)).scanned, spell_scan]

end Predicate

end DomainScout.Sql
