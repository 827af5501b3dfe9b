import DomainScout.Proofs.Sql.Clause
import DomainScout.Proofs.Sql.Content
import DomainScout.Store.Database
import Mathlib.Data.List.SplitBy

/-!
# Clauses of statements

A statement is a row of clauses, and each starts with a word that starts nothing else. A reader who
leaves out the blanks and cuts before these words, wherever they stand outside quotes, finds the
clauses that were written: no name of a column can add one, and no condition holds one.

Main statements: `cut_flatten`, `clauses_whereSql`.
-/
namespace DomainScout.Sql

/-! ### Cutting -/

/-- A blank between two words. -/
def Token.isSpace : Token → Bool
  | symbol c => c == ' ' || c == '\n'
  | _ => false

/-- The words that start a clause. -/
def clauseWords : List String := ["SELECT", "FROM", "WHERE", "ORDER", "LIMIT", "OFFSET"]

def Token.opensClause (token : Token) : Bool := clauseWords.any token.isKeyword

/-- The tokens without the blanks between them. -/
def solid (tokens : List Token) : List Token := tokens.filter fun token => !token.isSpace

/-- Cut before every word that starts a clause. -/
def cut (tokens : List Token) : List (List Token) :=
  tokens.splitBy fun _ next => !next.opensClause

/-- The clauses of a text. -/
def clauses (sql : String) : List (List Token) := cut (solid (scan sql))

example : clauses "SELECT \"FROM\" FROM t\nLIMIT $1" =
    [[.word "SELECT".toList, .quoted .identifier "FROM".toList],
      [.word "FROM".toList, .word ['t']],
      [.word "LIMIT".toList, .reference ['1']]] := by decide

/-- No clause starts among the tokens. -/
def Plain (tokens : List Token) : Prop := ∀ token ∈ tokens, token.opensClause = false

instance (tokens : List Token) : Decidable (Plain tokens) :=
  inferInstanceAs (Decidable (∀ token ∈ tokens, token.opensClause = false))

/-- One clause: a word that starts it, and nothing that starts another. -/
def IsClause : List Token → Prop
  | [] => False
  | first :: rest => first.opensClause = true ∧ Plain rest

instance : (tokens : List Token) → Decidable (IsClause tokens)
  | [] => inferInstanceAs (Decidable False)
  | first :: rest => inferInstanceAs (Decidable (first.opensClause = true ∧ Plain rest))

section Cutting

variable {tokens more : List Token}

theorem Plain.append (first : Plain tokens) (second : Plain more) : Plain (tokens ++ more) := by
  intro token member
  exact (List.mem_append.mp member).elim (first token) (second token)

theorem Plain.name (name : String) : Plain [.quoted .identifier name.toList] := by
  simp [Plain, Token.opensClause, clauseWords, Token.isKeyword]

theorem Plain.reference (bound : Nat) : Plain [referenceAfter bound] := by
  simp [Plain, referenceAfter, Token.opensClause, clauseWords, Token.isKeyword]

theorem Plain.solid (plain : Plain tokens) : Plain (solid tokens) :=
  fun token member => plain token (List.mem_of_mem_filter member)

theorem Plain.intercalate {gap : List Token} (between : Plain gap) {parts : List (List Token)}
    (each : ∀ part ∈ parts, Plain part) : Plain (gap.intercalate parts) := by
  induction parts with
  | nil => simp [Plain]
  | cons part rest ih =>
    have first : Plain part := each part List.mem_cons_self
    have others : Plain (gap.intercalate rest) := ih fun other member => each other (.tail part member)
    cases rest with
    | nil => simpa using first
    | cons next rest =>
      rw [List.intercalate_cons_cons]
      exact (first.append between).append others

theorem IsClause.append (whole : IsClause tokens) (plain : Plain more) :
    IsClause (tokens ++ more) := by
  cases tokens with
  | nil => exact whole.elim
  | cons first rest => exact ⟨whole.1, whole.2.append plain⟩

theorem solid_append : solid (tokens ++ more) = solid tokens ++ solid more := by
  simp [solid]

/-- What is collected from tokens, and not from the gaps between them, is collected part by part. -/
theorem collect_intercalate {β : Type} {collect : List Token → List β} (nothing : collect [] = [])
    (append : ∀ xs ys, collect (xs ++ ys) = collect xs ++ collect ys) {gap : List Token}
    (empty : collect gap = []) (parts : List (List Token)) :
    collect (gap.intercalate parts) = parts.flatMap collect := by
  induction parts with
  | nil => simp [nothing]
  | cons part rest ih =>
    cases rest with
    | nil => simp
    | cons next rest =>
      rw [List.intercalate_cons_cons, append, append, empty, ih]
      simp

/-- Inside a clause nothing is cut, since only its first token starts one. -/
theorem cut_clause {clause : List Token} (whole : IsClause clause) : cut clause = [clause] := by
  cases clause with
  | nil => exact whole.elim
  | cons first rest =>
    apply List.splitBy_of_isChain (by simp)
    apply List.isChain_iff_forall_rel_of_append_cons_cons.mpr
    intro one next before after split
    have member : next ∈ rest := by
      cases before <;> simp_all
    simp [whole.2 next member]

/-- Clauses are found again where they were put one after another. -/
theorem cut_flatten {parts : List (List Token)} (each : ∀ part ∈ parts, IsClause part) :
    cut parts.flatten = parts := by
  induction parts with
  | nil => simp [cut]
  | cons part rest ih =>
    -- The next clause starts with a word that is cut at, so the first one ends before it.
    have first : IsClause part := each part List.mem_cons_self
    have others : ∀ other ∈ rest, IsClause other := fun other member => each other (.tail part member)
    have apart : ∀ one ∈ part.getLast?, ∀ next ∈ rest.flatten.head?,
        (!next.opensClause) = false := by
      intro one _ next head
      cases rest with
      | nil => cases head
      | cons clause rest =>
        have second := others clause List.mem_cons_self
        cases clause with
        | nil => exact second.elim
        | cons opening tail =>
          cases head
          simp [second.1]
    calc cut (part :: rest).flatten = cut part ++ cut rest.flatten := List.splitBy_append apart
      _ = part :: rest := by rw [cut_clause first, ih others, List.singleton_append]

end Cutting

/-- The text ends outside quotes and consists of these clauses. -/
structure Consists (s : String) (parts : List (List Token)) : Prop where
  outside : (modeAfter s).isOutside = true
  each : ∀ part ∈ parts, IsClause part
  joined : solid (scan s) = parts.flatten

namespace Consists

variable {s t : String} {parts others : List (List Token)}

theorem clauses_eq (consists : Consists s parts) : clauses s = parts := by
  rw [clauses, consists.joined, cut_flatten consists.each]

theorem reads (consists : Consists s parts) : Reads s (scan s) := ⟨consists.outside, rfl⟩

theorem nothing : Consists "" [] := by
  constructor
  · decide
  · simp
  · rfl

theorem fixed (s : String) (whole : IsClause (solid (scan s)) := by decide)
    (outside : (modeAfter s).isOutside = true := by decide) : Consists s (clauses s) := by
  have one : clauses s = [solid (scan s)] := cut_clause whole
  constructor
  · exact outside
  · simp [one, whole]
  · simp [one]

/-- A word that starts a clause, and what the clause goes on with. -/
theorem clause {tokens : List Token} (read : Reads s tokens) (plain : Plain tokens) (fix : String)
    (starts : IsClause (solid (scan fix)) := by decide)
    (settled : modeAfter fix = .between := by decide) :
    Consists (fix ++ s) [solid (scan fix) ++ solid tokens] := by
  have whole := read.preceded fix settled
  constructor
  · exact whole.outside
  · simp [starts.append plain.solid]
  · simp [whole.scanned, solid_append]

theorem spaced (first : Consists s parts) (second : Consists t others) :
    Consists (s ++ " " ++ t) (parts ++ others) := by
  have whole := first.reads.joined " " second.reads
  have blank : solid (scan " ") = [] := by decide
  constructor
  · exact whole.outside
  · intro part member
    exact (List.mem_append.mp member).elim (first.each part) (second.each part)
  · simp [whole.scanned, solid_append, first.joined, second.joined, blank]

theorem reads_lines {lines : List String} {parts : List (List (List Token))}
    (each : List.Forall₂ Consists lines parts) : List.Forall₂ Reads lines (lines.map scan) := by
  induction each with
  | nil => exact .nil
  | cons first _ ih => exact .cons first.reads ih

/-- Lines one below the other have the clauses of the lines. -/
theorem lines {lines : List String} {parts : List (List (List Token))}
    (each : List.Forall₂ Consists lines parts) : Consists (sqlLines lines) parts.flatten := by
  have whole := Reads.intercalate "\n" (reads_lines each)
  have collected := collect_intercalate rfl (fun _ _ => solid_append)
    (show solid (scan "\n") = [] by decide) (lines.map scan)
  constructor
  case outside => exact whole.outside
  case each =>
    clear whole collected
    induction each with
    | nil => simp
    | cons first _ ih =>
      intro part member
      rw [List.flatten_cons] at member
      exact (List.mem_append.mp member).elim (first.each part) (ih part)
  case joined =>
    -- A line feed between two lines is left out like any other blank.
    rw [sqlLines, whole.scanned, collected]
    clear whole collected
    induction each with
    | nil => rfl
    | cons first _ ih => simp_all [first.joined]

end Consists

/-- The placeholders of lines one below the other are those of the lines. -/
theorem placeholdersIn_sqlLines {lines : List String} {parts : List (List (List Token))}
    (each : List.Forall₂ Consists lines parts) :
    placeholdersIn (sqlLines lines) = lines.flatMap placeholdersIn := by
  have whole := Reads.intercalate "\n" (Consists.reads_lines each)
  rw [placeholdersIn, sqlLines, whole.scanned,
    collect_intercalate rfl (fun _ _ => List.filterMap_append) (by decide), List.flatMap_map]
  rfl

/-! ### What conditions are written with -/

/-- The texts that conditions are put together from, besides names and references. -/
def fixedTexts : List String :=
  ["::text", "LOWER(", ")", "NULLIF(", ", '')", "TRY_CAST(", " AS DATE)", " AS TIMESTAMP)",
   " AS INTEGER)", "COALESCE(", ", 0)", "CAST(", "0", "NOW()", "CURRENT_DATE - ",
   " * INTERVAL '1 year'", "NOW() + ", " * INTERVAL '1 day'", " = ", " <= ", " >= ", " < ", " > ",
   " LIKE ", " ILIKE ", " IN (", ", ", " IS TRUE", " IS NOT TRUE", " IS NULL", " IS NOT NULL",
   "NOT ", " AND ", " OR ", "("]

/-- Where a token of a condition comes from. -/
inductive Token.Written : Token → Prop where
  | fixed {text : String} {token : Token} (known : text ∈ fixedTexts) (member : token ∈ scan text) :
      Written token
  | name (name : String) : Written (.quoted .identifier name.toList)
  | reference (bound : Nat) : Written (referenceAfter bound)

theorem plain_fixedTexts : ∀ text ∈ fixedTexts, Plain (scan text) := by decide +kernel

/-- No clause starts in what conditions are written with. -/
theorem Token.Written.plain {token : Token} (written : token.Written) :
    token.opensClause = false := by
  cases written with
  | fixed known member => exact plain_fixedTexts _ known token member
  | name name => rfl
  | reference bound => rfl

def Written (tokens : List Token) : Prop := ∀ token ∈ tokens, token.Written

namespace Written

variable {tokens more : List Token}

theorem append (first : Written tokens) (second : Written more) : Written (tokens ++ more) := by
  intro token member
  exact (List.mem_append.mp member).elim (first token) (second token)

theorem fixed (text : String) (known : text ∈ fixedTexts := by decide) : Written (scan text) :=
  fun _ member => .fixed known member

theorem asType (type : SqlType) : Written (scan (" AS " ++ type.name ++ ")")) := by
  cases type <;> exact fixed _

theorem sign (comparison : Comparison) : Written (scan (" " ++ comparison.sign ++ " ")) := by
  cases comparison <;> exact fixed _

theorem words (question : Question) : Written (scan (" " ++ question.words)) := by
  cases question <;> exact fixed _

theorem reference (bound : Nat) : Written [referenceAfter bound] := by
  simp [Written, Token.Written.reference]

theorem referenceList (bound count : Nat) : Written (referenceList bound count) := by
  induction count generalizing bound with
  | zero => simp [Written, Sql.referenceList, referenceTokens]
  | succ count ih =>
    cases count with
    | zero => exact reference bound
    | succ count =>
      rw [referenceList_succ]
      exact (reference bound).append ((fixed ", ").append (ih (bound + 1)))

theorem term (t : Term) (before : Nat) : Written (t.tokens before) := by
  induction t with
  | column name => simp [Written, Term.tokens, Token.Written.name]
  | bound v => exact reference before
  | zero => exact fixed "0"
  | now => exact fixed "NOW()"
  | asText t ih => exact ih.append (fixed "::text")
  | lowered t ih => exact ((fixed "LOWER(").append ih).append (fixed ")")
  | nonEmpty t ih => exact ((fixed "NULLIF(").append ih).append (fixed ", '')")
  | tryCast t type ih => exact ((fixed "TRY_CAST(").append ih).append (asType type)
  | orZero t ih => exact ((fixed "COALESCE(").append ih).append (fixed ", 0)")
  | cast t type ih => exact ((fixed "CAST(").append ih).append (asType type)
  | yearsAgo t ih => exact ((fixed "CURRENT_DATE - ").append ih).append (fixed " * INTERVAL '1 year'")
  | daysAhead t ih => exact ((fixed "NOW() + ").append ih).append (fixed " * INTERVAL '1 day'")

theorem condition (p : Predicate) (before : Nat) : Written (p.tokens before) := by
  induction p generalizing before with
  | compare left comparison right => exact ((term left _).append (sign comparison)).append (term right _)
  | among t choices =>
    exact (((term t _).append (fixed " IN (")).append (referenceList _ _)).append (fixed ")")
  | ask t question => exact (term t _).append (words question)
  | not p ih => exact (fixed "NOT ").append (ih before)
  | and p q left right => exact ((left before).append (fixed " AND ")).append (right _)
  | or p q left right => exact ((left before).append (fixed " OR ")).append (right _)
  | group p ih => exact ((fixed "(").append (ih before)).append (fixed ")")

/-- No condition holds the start of a clause. -/
theorem plain_allTokens (ps : List Predicate) (before : Nat) :
    ∀ part ∈ Predicate.allTokens before ps, Plain part := by
  induction ps generalizing before with
  | nil => simp [Predicate.allTokens]
  | cons p rest ih =>
    simp only [Predicate.allTokens, List.forall_mem_cons]
    exact ⟨fun token member => (condition p before token member).plain, ih _⟩

end Written

end DomainScout.Sql
