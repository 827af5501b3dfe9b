import DomainScout.Sql.Writing

/-!
# Writing and numbering

Conditions hold their values, so that their texts can be numbered without a binder. A writer with a
binder comes to the same texts: it counts on from the values that were bound before it, appends its own
and leaves the others as they are.

Main statements: `Term.writes`, `Predicate.writes`.
-/
namespace DomainScout.Sql

variable {α β : Type} {act : StateM Binder α} {text : Nat → α} {values more : List Value}

/-- The writer appends its values to those of the binder, and what it writes depends on these only by
their number. -/
def Writes (act : StateM Binder α) (text : Nat → α) (values : List Value) : Prop :=
  ∀ binder, act.run binder = (text binder.values.length, ⟨binder.values ++ values⟩)

namespace Writes

theorem pure (a : α) : Writes (pure a) (fun _ => a) [] := by
  intro binder
  rw [List.append_nil]
  rfl

/-- A second writer starts after the values of the first one. -/
theorem bind {next : α → StateM Binder β} {nextText : α → Nat → β} (first : Writes act text values)
    (second : ∀ a, Writes (next a) (nextText a) more) :
    Writes (act >>= next) (fun before => nextText (text before) (before + values.length))
      (values ++ more) := by
  intro binder
  have run := second (text binder.values.length) ⟨binder.values ++ values⟩
  rw [List.length_append, List.append_assoc] at run
  rw [StateT.run_bind, first binder]
  exact run

/-- What is written may be put into other text. -/
theorem within (writes : Writes act text values) (f : α → β) :
    Writes (do return f (← act)) (fun before => f (text before)) values := by
  have whole := writes.bind fun a => Writes.pure (f a)
  rwa [List.append_nil] at whole

theorem bindOne (v : Value) : Writes (modifyGet (·.bind v)) placeholder [v] := fun _ => rfl

theorem bindMany (vs : List Value) :
    Writes (modifyGet (·.bindAll vs)) (fun before => placeholders before vs.length) vs := fun _ => rfl

end Writes

/-- An expression is written as it is numbered. -/
theorem Term.writes (t : Term) : Writes t.write (fun before => t.text before) t.values := by
  induction t with
  | column name => exact .pure _
  | bound v => exact .bindOne v
  | zero => exact .pure _
  | now => exact .pure _
  | asText t ih => exact ih.within _
  | lowered t ih => exact ih.within _
  | nonEmpty t ih => exact ih.within _
  | tryCast t type ih => exact ih.within _
  | orZero t ih => exact ih.within _
  | cast t type ih => exact ih.within _
  | yearsAgo t ih => exact ih.within _
  | daysAhead t ih => exact ih.within _

/-- A condition is written as it is numbered. -/
theorem Predicate.writes (p : Predicate) : Writes p.write (fun before => p.text before) p.values := by
  induction p with
  | compare left comparison right =>
    exact left.writes.bind fun _ => right.writes.within _
  | among t choices =>
    have references := Writes.bindMany (choices.map Value.text)
    rw [List.length_map] at references
    exact t.writes.bind fun _ => references.within _
  | ask t question => exact t.writes.within _
  | not p ih => exact ih.within _
  | and p q left right => exact left.bind fun _ => right.within _
  | or p q left right => exact left.bind fun _ => right.within _
  | group p ih => exact ih.within _

/-- A condition that may be missing. -/
theorem Writes.optional (p : Option Predicate) :
    Writes (p.mapM Predicate.write) (fun before => p.map (Predicate.text before))
      (Predicate.allValues p.toList) := by
  cases p with
  | none => exact .pure none
  | some p =>
    have whole := p.writes.within some
    simpa [Predicate.allValues] using whole

end DomainScout.Sql
