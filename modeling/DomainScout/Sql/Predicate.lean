import DomainScout.Sql.Ident

/-!
# Predicates

The conditions of a query are trees that hold the values they compare with. A predicate has a text
and a list of values: the text refers to the values by position, in the order in which they are
listed, and the positions are counted after those of the predicates before it.
-/
namespace DomainScout.Sql

/-- The types that stored text is read as. -/
inductive SqlType where
  | date
  | timestamp
  | integer
  deriving DecidableEq

/-- The name of a type. -/
def SqlType.name : SqlType → String
  | date => "DATE"
  | timestamp => "TIMESTAMP"
  | integer => "INTEGER"

/-- Expressions over one row. -/
inductive Term where
  | column (name : String)
  /-- The text of a value. -/
  | asText (t : Term)
  /-- The text in lower case. -/
  | lowered (t : Term)
  /-- The text, or null if it is empty. -/
  | nonEmpty (t : Term)
  /-- The text read as a type, or null if it does not read. -/
  | tryCast (t : Term) (type : SqlType)
  /-- The number, or zero for null. -/
  | orZero (t : Term)
  /-- A value that travels beside the statement. -/
  | bound (v : Value)
  /-- The value as a type; the statement fails if it does not convert. -/
  | cast (t : Term) (type : SqlType)
  | zero
  | now
  /-- Today's date, some years back. -/
  | yearsAgo (t : Term)
  /-- The present moment, some days on. -/
  | daysAhead (t : Term)

namespace Term

/-- The text of an expression that comes after `bound` values. -/
def text (before : Nat) : Term → String
  | column name => quoteIdent name
  | asText t => t.text before ++ "::text"
  | lowered t => "LOWER(" ++ t.text before ++ ")"
  | nonEmpty t => "NULLIF(" ++ t.text before ++ ", '')"
  | tryCast t type => "TRY_CAST(" ++ t.text before ++ " AS " ++ type.name ++ ")"
  | orZero t => "COALESCE(" ++ t.text before ++ ", 0)"
  | bound _ => placeholder before
  | cast t type => "CAST(" ++ t.text before ++ " AS " ++ type.name ++ ")"
  | zero => "0"
  | now => "NOW()"
  | yearsAgo t => "CURRENT_DATE - " ++ t.text before ++ " * INTERVAL '1 year'"
  | daysAhead t => "NOW() + " ++ t.text before ++ " * INTERVAL '1 day'"

/-- The values of an expression. -/
def values : Term → List Value
  | bound v => [v]
  | asText t | lowered t | nonEmpty t | tryCast t _ | orZero t | cast t _ | yearsAgo t
  | daysAhead t => t.values
  | column _ | zero | now => []

end Term

/-- The ways to compare two expressions. -/
inductive Comparison where
  | eq
  | le
  | ge
  | lt
  | gt
  /-- The text matches a pattern. -/
  | like
  /-- The text matches a pattern, whatever the case of its letters. -/
  | ilike
  deriving DecidableEq

/-- The sign of a comparison. -/
def Comparison.sign : Comparison → String
  | eq => "="
  | le => "<="
  | ge => ">="
  | lt => "<"
  | gt => ">"
  | like => "LIKE"
  | ilike => "ILIKE"

/-- The questions to ask of one expression. -/
inductive Question where
  | isTrue
  | isNotTrue
  | isNull
  | isNotNull
  deriving DecidableEq

/-- The words of a question. -/
def Question.words : Question → String
  | isTrue => "IS TRUE"
  | isNotTrue => "IS NOT TRUE"
  | isNull => "IS NULL"
  | isNotNull => "IS NOT NULL"

/-- Conditions on one row. -/
inductive Predicate where
  | compare (left : Term) (comparison : Comparison) (right : Term)
  /-- The expression equals one of the texts. -/
  | among (t : Term) (choices : List String)
  | ask (t : Term) (question : Question)
  | not (p : Predicate)
  | and (p q : Predicate)
  | or (p q : Predicate)
  /-- The condition in parentheses. -/
  | group (p : Predicate)

namespace Predicate

/-- The values of a condition, in the order of its text. -/
def values : Predicate → List Value
  | compare left _ right => left.values ++ right.values
  | among t choices => t.values ++ choices.map .text
  | ask t _ => t.values
  | not p | group p => p.values
  | and p q | or p q => p.values ++ q.values

/-- The text of a condition that comes after `before` values. -/
def text (before : Nat) : Predicate → String
  | compare left comparison right =>
    left.text before ++ " " ++ comparison.sign ++ " " ++ right.text (before + left.values.length)
  | among t choices =>
    t.text before ++ " IN ("
      ++ ", ".intercalate (placeholders (before + t.values.length) choices.length) ++ ")"
  | ask t question => t.text before ++ " " ++ question.words
  | not p => "NOT " ++ p.text before
  | and p q => p.text before ++ " AND " ++ q.text (before + p.values.length)
  | or p q => p.text before ++ " OR " ++ q.text (before + p.values.length)
  | group p => "(" ++ p.text before ++ ")"

/-- One of several conditions, without parentheses around them. -/
def anyOf (p : Predicate) : List Predicate → Predicate
  | [] => p
  | q :: rest => or p (anyOf q rest)

/-- The texts of conditions that come after `before` values. -/
def texts (before : Nat) : List Predicate → List String
  | [] => []
  | p :: rest => p.text before :: texts (before + p.values.length) rest

/-- The values of conditions, in order. -/
def allValues (ps : List Predicate) : List Value := ps.flatMap values

end Predicate

end DomainScout.Sql
