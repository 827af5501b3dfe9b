import DomainScout.Sql.Ident
import Mathlib.Tactic.SplitIfs

/-!
# Tokens of SQL text

A text is read from left to right. Double quotes enclose an identifier and single quotes a
literal, and a quote mark written twice inside stands for one. Outside quotes, a dollar sign with
digits refers to a value, letters, digits and underscores make words, and every other character
stands for itself.

Main statement: `spelling_scan`, reading loses nothing.
-/
namespace DomainScout.Sql

/-- What can be quoted. -/
inductive Quote where
  | identifier
  | literal
  deriving DecidableEq

/-- The mark on both sides of a quoted text. -/
def Quote.mark : Quote → Char
  | identifier => '"'
  | literal => '\''

/-- The inside of a quoted text: every quote mark is written twice. -/
def Quote.escape (quote : Quote) (content : List Char) : List Char :=
  content.flatMap fun c => if c = quote.mark then [c, c] else [c]

/-- The smallest parts of a text. -/
inductive Token where
  | quoted (quote : Quote) (content : List Char)
  /-- A quote that is still open at the end of the text. -/
  | unclosed (quote : Quote) (content : List Char)
  /-- A dollar sign with digits after it. -/
  | reference (digits : List Char)
  | word (letters : List Char)
  | symbol (c : Char)
  deriving DecidableEq

/-- How a token is written. -/
def Token.spelling : Token → List Char
  | quoted quote content => quote.mark :: quote.escape content ++ [quote.mark]
  | unclosed quote content => quote.mark :: quote.escape content
  | reference digits => '$' :: digits
  | word letters => letters
  | symbol c => [c]

/-- The text that some tokens spell. -/
def spell (tokens : List Token) : String := String.ofList (tokens.flatMap Token.spelling)

/-- A letter, a digit or an underscore. -/
def isWordChar (c : Char) : Bool := c.isAlphanum || c == '_' || 0x80 ≤ c.toNat

/-- The token that a reader stands in, with what has been read of it. -/
inductive Mode where
  | between
  | inWord (letters : List Char)
  /-- After a dollar sign. -/
  | inReference (digits : List Char)
  | inQuote (quote : Quote) (content : List Char)
  /-- After a quote mark inside a quoted text: its end, or the first of two marks. -/
  | afterMark (quote : Quote) (content : List Char)
  deriving DecidableEq

namespace Mode

/-- The token that ends here. -/
def finish : Mode → List Token
  | between => []
  | inWord letters => [.word letters]
  | inReference [] => [.symbol '$']
  | inReference (d :: digits) => [.reference (d :: digits)]
  | inQuote quote content => [.unclosed quote content]
  | afterMark quote content => [.quoted quote content]

/-- The token goes on with a character. -/
def extend? (c : Char) : Mode → Option Mode
  | between => none
  | inWord letters => if isWordChar c then some (inWord (letters ++ [c])) else none
  | inReference digits => if c.isDigit then some (inReference (digits ++ [c])) else none
  | inQuote quote content =>
    some (if c = quote.mark then afterMark quote content else inQuote quote (content ++ [c]))
  | afterMark quote content =>
    if c = quote.mark then some (inQuote quote (content ++ [c])) else none

/-- A character that starts a token: the token if it is complete, and the mode after it. -/
def start (c : Char) : List Token × Mode :=
  if c = '"' then ([], inQuote .identifier [])
  else if c = '\'' then ([], inQuote .literal [])
  else if c = '$' then ([], inReference [])
  else if isWordChar c then ([], inWord [c])
  else ([.symbol c], between)

/-- Read a character: the tokens that it completes, and the mode after it. -/
def step (mode : Mode) (c : Char) : List Token × Mode :=
  match mode.extend? c with
  | some longer => ([], longer)
  | none => (mode.finish ++ (start c).1, (start c).2)

/-- Read characters: the tokens that they complete, and the mode after them. -/
def run (mode : Mode) : List Char → List Token × Mode
  | [] => ([], mode)
  | c :: rest =>
    ((mode.step c).1 ++ ((mode.step c).2.run rest).1, ((mode.step c).2.run rest).2)

/-- The reader stands outside quotes. -/
def isOutside : Mode → Bool
  | inQuote _ _ => false
  | between | inWord _ | inReference _ | afterMark _ _ => true

end Mode

/-- The mode at the end of a text. -/
def modeAfter (s : String) : Mode := (Mode.between.run s.toList).2

/-- The tokens of a text. -/
def scan (s : String) : List Token := (Mode.between.run s.toList).1 ++ (modeAfter s).finish

example : scan "\"a\"\"$1\" = $2" =
    [.quoted .identifier ['a', '"', '$', '1'], .symbol ' ', .symbol '=', .symbol ' ',
     .reference ['2']] := by decide

namespace Quote

theorem escape_append (quote : Quote) (xs ys : List Char) :
    quote.escape (xs ++ ys) = quote.escape xs ++ quote.escape ys := List.flatMap_append

theorem escape_mark (quote : Quote) : quote.escape [quote.mark] = [quote.mark, quote.mark] := by
  simp [escape]

theorem escape_other (quote : Quote) (c : Char) (other : c ≠ quote.mark) :
    quote.escape [c] = [c] := by
  simp [escape, other]

end Quote

namespace Mode

/-- The characters that the reader has taken in and not yet given out as a token. -/
private def held (mode : Mode) : List Char := mode.finish.flatMap Token.spelling

private theorem held_inReference (digits : List Char) :
    (inReference digits).held = '$' :: digits := by
  cases digits <;> simp [held, finish, Token.spelling]

private theorem held_extend {mode longer : Mode} {c : Char} (goes : mode.extend? c = some longer) :
    longer.held = mode.held ++ [c] := by
  cases mode with
  | between => cases goes
  | inWord letters =>
    simp only [extend?] at goes
    split at goes
    · cases goes
      simp [held, finish, Token.spelling]
    · cases goes
  | inReference digits =>
    simp only [extend?] at goes
    split at goes
    · cases goes
      simp [held_inReference]
    · cases goes
  | inQuote quote content =>
    -- A mark is held back, since only the next character tells whether it ends the quote.
    simp only [extend?, Option.some.injEq] at goes
    subst goes
    split
    next mark => simp [held, finish, Token.spelling, mark]
    next other =>
      simp [held, finish, Token.spelling, quote.escape_append, quote.escape_other c other]
  | afterMark quote content =>
    simp only [extend?] at goes
    split at goes
    next mark =>
      cases goes
      subst c
      simp [held, finish, Token.spelling, quote.escape_append, quote.escape_mark]
    next => cases goes

private theorem held_start (c : Char) :
    (start c).1.flatMap Token.spelling ++ (start c).2.held = [c] := by
  unfold start
  split_ifs <;> simp_all [held, finish, Token.spelling, Quote.mark, Quote.escape]

private theorem held_step (mode : Mode) (c : Char) :
    (mode.step c).1.flatMap Token.spelling ++ (mode.step c).2.held = mode.held ++ [c] := by
  unfold step
  split
  next longer goes => simpa using held_extend goes
  next =>
    have started := held_start c
    rw [List.flatMap_append, List.append_assoc, started, held]

/-- What is read is what was held before, and nothing is lost on the way. -/
private theorem held_run (mode : Mode) (cs : List Char) :
    (mode.run cs).1.flatMap Token.spelling ++ (mode.run cs).2.held = mode.held ++ cs := by
  -- The induction is along the characters; every mode may come first, so the mode is general.
  induction cs generalizing mode with
  | nil => simp [run]
  | cons c rest ih =>
    simp only [run, List.flatMap_append, List.append_assoc, ih]
    rw [← List.append_assoc, held_step, List.append_assoc, List.singleton_append]

end Mode

/-- Reading loses nothing: the tokens of a text spell the text. -/
theorem spelling_scan (s : String) : (scan s).flatMap Token.spelling = s.toList := by
  have nothingLost := Mode.held_run .between s.toList
  simp only [scan, modeAfter, List.flatMap_append]
  exact nothingLost

theorem spell_scan (s : String) : spell (scan s) = s := by
  rw [spell, spelling_scan, String.ofList_toList]

end DomainScout.Sql
