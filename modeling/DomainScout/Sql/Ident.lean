import DomainScout.Catalog.Table

/-!
# Identifiers and placeholders

Column and table names reach a statement only between double quotes, with every quote inside
doubled. Values never reach it: they travel beside the statement and are referred to by position,
counted from one.
-/
namespace DomainScout.Sql

/-- The inside of a quoted identifier. -/
def doubleQuotes (cs : List Char) : List Char :=
  cs.flatMap fun c => if c = '"' then ['"', '"'] else [c]

/-- A quoted identifier. -/
def quoteIdent (name : String) : String :=
  String.ofList ('"' :: doubleQuotes name.toList ++ ['"'])

/-- A table's quoted name, with its schema. -/
def quoteTable (ref : TableRef) : String := quoteIdent ref.schema ++ "." ++ quoteIdent ref.table

/-- The reference to the value that comes after `bound` others. -/
def placeholder (bound : Nat) : String := "$" ++ toString (bound + 1)

/-- References to `count` values that come after `bound` others. -/
def placeholders (bound : Nat) : Nat → List String
  | 0 => []
  | count + 1 => placeholder bound :: placeholders (bound + 1) count

/-- The values bound so far. -/
structure Binder where
  values : List Value

namespace Binder

/-- Bind one more value: the reference to it. -/
def bind (binder : Binder) (v : Value) : String × Binder :=
  (placeholder binder.values.length, ⟨binder.values ++ [v]⟩)

/-- Bind more values, in order: the references to them. -/
def bindAll (binder : Binder) (vs : List Value) : List String × Binder :=
  (placeholders binder.values.length vs.length, ⟨binder.values ++ vs⟩)

end Binder

example : quoteIdent "a\"b" = "\"a\"\"b\"" := by decide +kernel

end DomainScout.Sql
