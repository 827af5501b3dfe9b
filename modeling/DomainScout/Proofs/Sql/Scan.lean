import DomainScout.Proofs.Sql.Token
import Mathlib.Data.List.Forall2

/-!
# Reading composed texts

Texts are put together from parts that end outside quotes, with fixed text between them that keeps
words apart. Such a text reads as the tokens of its parts, one after another.
-/
namespace DomainScout.Sql

/-- A character that continues no token but a quoted one. -/
def separates (c : Char) : Bool := !isWordChar c && c != '"' && c != '\''

/-- The text starts with a character that ends the token before it. -/
def startsApart (s : String) : Bool := s.toList.head?.any separates

/-- The text ends outside quotes and has these tokens. -/
structure Reads (s : String) (tokens : List Token) : Prop where
  outside : (modeAfter s).isOutside = true
  scanned : scan s = tokens

namespace Mode

theorem run_append (mode : Mode) (xs ys : List Char) :
    mode.run (xs ++ ys) =
      ((mode.run xs).1 ++ ((mode.run xs).2.run ys).1, ((mode.run xs).2.run ys).2) := by
  induction xs generalizing mode with
  | nil => simp [run]
  | cons x xs ih => simp only [List.cons_append, run, ih, List.append_assoc]

theorem extend?_of_separates {mode : Mode} {c : Char} (outside : mode.isOutside = true)
    (apart : separates c = true) : mode.extend? c = none := by
  simp only [separates, Bool.and_eq_true, Bool.not_eq_true', bne_iff_ne, ne_eq] at apart
  obtain ⟨⟨notWord, notDouble⟩, notSingle⟩ := apart
  cases mode with
  | between => rfl
  | inWord letters => simp [extend?, notWord]
  | inReference digits =>
    have notDigit : c.isDigit = false := by
      simp only [isWordChar, Char.isAlphanum, Bool.or_eq_false_iff] at notWord
      exact notWord.1.1.2
    simp [extend?, notDigit]
  | inQuote quote content => cases outside
  | afterMark quote content =>
    have notMark : c ≠ quote.mark := by
      cases quote with
      | identifier => exact notDouble
      | literal => exact notSingle
    simp [extend?, notMark]

/-- A separating character ends the token before it, whatever token that is. -/
theorem run_of_separates {mode : Mode} {c : Char} (outside : mode.isOutside = true)
    (apart : separates c = true) (rest : List Char) :
    mode.run (c :: rest) =
      (mode.finish ++ (between.run (c :: rest)).1, (between.run (c :: rest)).2) := by
  have ends : mode.step c = (mode.finish ++ (start c).1, (start c).2) := by
    simp only [step, extend?_of_separates outside apart]
  have starts : between.step c = start c := rfl
  simp only [run, ends, starts, List.append_assoc]

end Mode

theorem modeAfter_append (s t : String) :
    modeAfter (s ++ t) = ((modeAfter s).run t.toList).2 := by
  simp only [modeAfter, String.toList_append, Mode.run_append]

theorem scan_append (s t : String) :
    scan (s ++ t) = (Mode.between.run s.toList).1 ++ ((modeAfter s).run t.toList).1
      ++ ((modeAfter s).run t.toList).2.finish := by
  rw [scan, modeAfter_append]
  simp only [modeAfter, String.toList_append, Mode.run_append]

namespace Reads

variable {s t : String} {ts us : List Token}

theorem fixed (s : String) (outside : (modeAfter s).isOutside = true := by decide) :
    Reads s (scan s) := ⟨outside, rfl⟩

/-- Where the first text leaves no token open, the second one is read as if it stood alone. -/
theorem append_of_settled (first : Reads s ts) (second : Reads t us)
    (settled : modeAfter s = .between) : Reads (s ++ t) (ts ++ us) := by
  have same : (Mode.between.run s.toList).1 = ts := by
    rw [← first.scanned, scan, settled, Mode.finish, List.append_nil]
  constructor
  · rw [modeAfter_append, settled]
    exact second.outside
  · rw [scan_append, same, settled, List.append_assoc, ← second.scanned]
    rfl

/-- Where the second text starts apart, it ends the last token of the first one. -/
theorem append_of_apart (first : Reads s ts) (second : Reads t us)
    (apart : startsApart t = true) :
    Reads (s ++ t) (ts ++ us) ∧ modeAfter (s ++ t) = modeAfter t := by
  obtain ⟨c, rest, chars, separate⟩ : ∃ c rest, t.toList = c :: rest ∧ separates c = true := by
    unfold startsApart at apart
    cases chars : t.toList with
    | nil => simp [chars] at apart
    | cons c rest => exact ⟨c, rest, rfl, by simpa [chars] using apart⟩
  -- The first character of `t` ends the token that `s` leaves open, and starts one of its own.
  have cut := Mode.run_of_separates first.outside separate rest
  have mode : modeAfter (s ++ t) = modeAfter t := by
    rw [modeAfter_append, chars, cut]
    simp only [modeAfter, chars]
  refine ⟨⟨mode ▸ second.outside, ?_⟩, mode⟩
  rw [scan_append, chars, cut, ← first.scanned, ← second.scanned]
  simp only [scan, modeAfter, chars, List.append_assoc]

theorem preceded (read : Reads t us) (fix : String)
    (settled : modeAfter fix = .between := by decide) : Reads (fix ++ t) (scan fix ++ us) :=
  (fixed fix (by rw [settled]; rfl)).append_of_settled read settled

theorem followed (read : Reads s ts) (fix : String)
    (outside : (modeAfter fix).isOutside = true := by decide)
    (apart : startsApart fix = true := by decide) : Reads (s ++ fix) (ts ++ scan fix) :=
  (read.append_of_apart (fixed fix outside) apart).1

theorem joined (first : Reads s ts) (fix : String) (second : Reads t us)
    (settled : modeAfter fix = .between := by decide)
    (apart : startsApart fix = true := by decide) :
    Reads (s ++ fix ++ t) (ts ++ scan fix ++ us) := by
  have start := first.append_of_apart (fixed fix (by rw [settled]; rfl)) apart
  exact start.1.append_of_settled second (start.2.trans settled)

theorem intercalate {texts : List String} {tokens : List (List Token)} (fix : String)
    (each : List.Forall₂ Reads texts tokens) (settled : modeAfter fix = .between := by decide)
    (apart : startsApart fix = true := by decide) :
    Reads (fix.intercalate texts) ((scan fix).intercalate tokens) := by
  induction each with
  | nil => exact fixed ""
  | @cons s ts texts tokens read others ih =>
    cases others with
    | nil => simpa using read
    | cons next others =>
      rw [String.intercalate_cons_cons, List.intercalate_cons_cons]
      exact read.joined fix ih settled apart

end Reads

/-! ### Identifiers and placeholders -/

/-- The inside of an identifier is read back to its name. -/
private theorem run_doubleQuotes (before name : List Char) :
    (Mode.inQuote .identifier before).run (doubleQuotes name) =
      ([], .inQuote .identifier (before ++ name)) := by
  -- After each character of the name the reader is inside the quotes again: a mark in the name is
  -- written twice, and the second one takes it back in.
  induction name generalizing before with
  | nil => simp [doubleQuotes, Mode.run]
  | cons c name ih =>
    have split : doubleQuotes (c :: name) =
        (if c = '"' then ['"', '"'] else [c]) ++ doubleQuotes name := rfl
    have head : (Mode.inQuote .identifier before).run (if c = '"' then ['"', '"'] else [c]) =
        ([], .inQuote .identifier (before ++ [c])) := by
      by_cases mark : c = '"'
      · simp [mark, Mode.run, Mode.step, Mode.extend?, Quote.mark]
      · simp [mark, Mode.run, Mode.step, Mode.extend?, Quote.mark]
    rw [split, Mode.run_append, head, ih]
    simp

/-- A quoted identifier reads as one token that holds the name, whatever the name is. -/
theorem reads_quoteIdent (name : String) :
    Reads (quoteIdent name) [.quoted .identifier name.toList] := by
  have whole : Mode.between.run (quoteIdent name).toList =
      ([], .afterMark .identifier name.toList) := by
    have opened : Mode.between.step '"' = ([], .inQuote .identifier []) := by decide
    rw [quoteIdent, String.toList_ofList, List.cons_append, Mode.run, opened, Mode.run_append,
      run_doubleQuotes]
    simp [Mode.run, Mode.step, Mode.extend?, Quote.mark]
  constructor
  · rw [modeAfter, whole]
    rfl
  · rw [scan, modeAfter, whole]
    rfl

/-- The token of the reference to the value that comes after `bound` others. -/
def referenceAfter (bound : Nat) : Token := .reference (Nat.toDigits 10 (bound + 1))

private theorem run_digits (before digits : List Char) (all : ∀ d ∈ digits, d.isDigit = true) :
    (Mode.inReference before).run digits = ([], .inReference (before ++ digits)) := by
  induction digits generalizing before with
  | nil => simp [Mode.run]
  | cons d digits ih =>
    have digit : d.isDigit = true := all d List.mem_cons_self
    have others : ∀ e ∈ digits, e.isDigit = true := fun e member => all e (.tail d member)
    simp [Mode.run, Mode.step, Mode.extend?, digit, ih (before ++ [d]) others]

theorem reads_placeholder (bound : Nat) : Reads (placeholder bound) [referenceAfter bound] := by
  have chars : (placeholder bound).toList = '$' :: Nat.toDigits 10 (bound + 1) := by
    simp [placeholder]
  have digits : ∀ d ∈ Nat.toDigits 10 (bound + 1), d.isDigit = true := fun d member =>
    Nat.isDigit_of_mem_toDigits (by decide) (by decide) member
  have opened : Mode.between.step '$' = ([], .inReference []) := by decide
  have whole : Mode.between.run (placeholder bound).toList =
      ([], .inReference (Nat.toDigits 10 (bound + 1))) := by
    rw [chars, Mode.run, opened, run_digits [] _ digits]
    rfl
  constructor
  · rw [modeAfter, whole]
    rfl
  · rw [scan, modeAfter, whole]
    cases written : Nat.toDigits 10 (bound + 1) with
    | nil => exact absurd written Nat.toDigits_ne_nil
    | cons d rest => simp [Mode.finish, referenceAfter, written]

end DomainScout.Sql
