import DomainScout.Sql.Predicate

/-!
# Writing with a binder

A caller that writes several conditions keeps the values of all of them in one binder. The text of a
condition is written from left to right; where it comes to a value, the value is bound and the text
goes on with the reference that the binder gives.
-/
namespace DomainScout.Sql

/-- Write an expression, binding its values. -/
def Term.write : Term → StateM Binder String
  | column name => return quoteIdent name
  | asText t => return (← t.write) ++ "::text"
  | lowered t => return "LOWER(" ++ (← t.write) ++ ")"
  | nonEmpty t => return "NULLIF(" ++ (← t.write) ++ ", '')"
  | tryCast t type => return "TRY_CAST(" ++ (← t.write) ++ " AS " ++ type.name ++ ")"
  | orZero t => return "COALESCE(" ++ (← t.write) ++ ", 0)"
  | bound v => modifyGet (·.bind v)
  | cast t type => return "CAST(" ++ (← t.write) ++ " AS " ++ type.name ++ ")"
  | zero => return "0"
  | now => return "NOW()"
  | yearsAgo t => return "CURRENT_DATE - " ++ (← t.write) ++ " * INTERVAL '1 year'"
  | daysAhead t => return "NOW() + " ++ (← t.write) ++ " * INTERVAL '1 day'"

/-- Write a condition, binding its values. -/
def Predicate.write : Predicate → StateM Binder String
  | compare left comparison right => do
    let leftText ← left.write
    let rightText ← right.write
    return leftText ++ " " ++ comparison.sign ++ " " ++ rightText
  | among t choices => do
    let text ← t.write
    let references ← modifyGet (·.bindAll (choices.map .text))
    return text ++ " IN (" ++ ", ".intercalate references ++ ")"
  | ask t question => return (← t.write) ++ " " ++ question.words
  | not p => return "NOT " ++ (← p.write)
  | and p q => do
    let left ← p.write
    let right ← q.write
    return left ++ " AND " ++ right
  | or p q => do
    let left ← p.write
    let right ← q.write
    return left ++ " OR " ++ right
  | group p => return "(" ++ (← p.write) ++ ")"

end DomainScout.Sql
