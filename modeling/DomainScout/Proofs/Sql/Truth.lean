import DomainScout.Sql.Predicate

/-!
# What conditions say of a row

A condition is true, false or unknown of a row. Null makes a comparison unknown, and what is unknown
goes through `NOT`, `AND` and `OR` as three-valued logic has it; only the questions `IS …` and
`COALESCE` answer for null. What a database does with values that are there is left open: an engine
compares them, reads texts as types and so on, in whatever way.

A row is selected where the condition is true. So a condition and its negation share out those rows
of which the condition is not unknown.

Main statements: `Definite.anyOf`, `Unknown.anyOf`, `Definite.selects_not`.
-/
namespace DomainScout.Sql

/-! ### Values -/

/-- What a database does with values that are not null. -/
structure Engine (δ : Type) where
  asText : δ → δ
  lowered : δ → δ
  /-- The value is the empty text. -/
  isEmpty : δ → Bool
  /-- The text read as a type, if it reads. -/
  read? : SqlType → δ → Option δ
  /-- A bound value; the only one that is null is the missing one. -/
  bound : Value → Option δ
  bound_eq_none : ∀ v, bound v = none ↔ v = .null
  zero : δ
  now : δ
  yearsAgo : δ → δ
  daysAhead : δ → δ
  isTrue : δ → Bool
  compare : Comparison → δ → δ → Bool

/-- A value does not convert, and the statement fails. -/
structure CastFault where

variable {δ : Type} (engine : Engine δ) (row : String → Option δ)

/-- The value of an expression in a row; null is none. -/
def Term.eval : Term → Except CastFault (Option δ)
  | column name => .ok (row name)
  | asText t => return (← t.eval).map engine.asText
  | lowered t => return (← t.eval).map engine.lowered
  | nonEmpty t => return (← t.eval).filter (!engine.isEmpty ·)
  | tryCast t type => return (← t.eval).bind (engine.read? type)
  | orZero t => return some ((← t.eval).getD engine.zero)
  | bound v => .ok (engine.bound v)
  | cast t type => do
    match ← t.eval with
    | none => return none
    | some d =>
      match engine.read? type d with
      | some converted => return some converted
      | none => throw ⟨⟩
  | zero => .ok (some engine.zero)
  | now => .ok (some engine.now)
  | yearsAgo t => return (← t.eval).map engine.yearsAgo
  | daysAhead t => return (← t.eval).map engine.daysAhead

/-! ### Truth -/

/-- True, false, or unknown. -/
abbrev Truth := Option Bool

namespace Truth

def not (t : Truth) : Truth := t.map (!·)

/-- False if one of two is, whatever the other one is. -/
def and : Truth → Truth → Truth
  | some false, _ | _, some false => some false
  | some true, some true => some true
  | _, _ => none

/-- True if one of two is, whatever the other one is. -/
def or : Truth → Truth → Truth
  | some true, _ | _, some true => some true
  | some false, some false => some false
  | _, _ => none

example : and none (some false) = some false ∧ or none (some false) = none := by decide

end Truth

/-- How two values compare; with null they do not. -/
def Engine.compares (comparison : Comparison) : Option δ → Option δ → Truth
  | some a, some b => some (engine.compare comparison a b)
  | _, _ => none

/-- The answer to a question, which is never unknown. -/
def Engine.answers (v : Option δ) : Question → Bool
  | .isTrue => v.any engine.isTrue
  | .isNotTrue => !v.any engine.isTrue
  | .isNull => v.isNone
  | .isNotNull => v.isSome

/-- The truth of a condition in a row. -/
def Predicate.eval : Predicate → Except CastFault Truth
  | compare left comparison right =>
    return engine.compares comparison (← left.eval engine row) (← right.eval engine row)
  | among t choices => do
    let v ← t.eval engine row
    return (choices.map fun choice => engine.compares .eq v (engine.bound (.text choice))).foldr
      Truth.or (some false)
  | ask t question => return some (engine.answers (← t.eval engine row) question)
  | not p => return (← p.eval).not
  | and p q => return (← p.eval).and (← q.eval)
  | or p q => return (← p.eval).or (← q.eval)
  | group p => p.eval

/-- The condition lets the row through. -/
def Predicate.Selects (p : Predicate) : Prop := p.eval engine row = .ok (some true)

/-- The condition is true or false of the row. -/
def Definite (p : Predicate) : Prop := ∃ b, p.eval engine row = .ok (some b)

/-- The condition is unknown of the row. -/
def Unknown (p : Predicate) : Prop := p.eval engine row = .ok none

variable {engine row} {p q : Predicate} {rest : List Predicate}

theorem eval_or {a b : Truth} (left : p.eval engine row = .ok a) (right : q.eval engine row = .ok b) :
    (Predicate.or p q).eval engine row = .ok (a.or b) := by
  simp only [Predicate.eval, left, right]
  rfl

/-- What `OR` keeps holds of several conditions if it holds of each. -/
theorem eval_anyOf {P : Truth → Prop} (keeps : ∀ a b, P a → P b → P (a.or b))
    (first : ∃ a, p.eval engine row = .ok a ∧ P a)
    (others : ∀ q ∈ rest, ∃ a, q.eval engine row = .ok a ∧ P a) :
    ∃ a, (Predicate.anyOf p rest).eval engine row = .ok a ∧ P a := by
  -- The conditions hang on the right of each other, so what the rest amounts to is known first.
  induction rest generalizing p with
  | nil => exact first
  | cons q rest ih =>
    obtain ⟨a, left, kept⟩ := first
    obtain ⟨b, right, kept'⟩ := ih (others q List.mem_cons_self) fun r member => others r (.tail q member)
    exact ⟨a.or b, eval_or left right, keeps a b kept kept'⟩

theorem Definite.anyOf (first : Definite engine row p) (others : ∀ q ∈ rest, Definite engine row q) :
    Definite engine row (.group (.anyOf p rest)) := by
  have told : ∃ a, (Predicate.anyOf p rest).eval engine row = .ok a ∧ ∃ b, a = some b := by
    apply eval_anyOf
    · rintro _ _ ⟨a, rfl⟩ ⟨b, rfl⟩
      exact ⟨a || b, by cases a <;> cases b <;> rfl⟩
    · obtain ⟨b, eq⟩ := first
      exact ⟨some b, eq, b, rfl⟩
    · intro q member
      obtain ⟨b, eq⟩ := others q member
      exact ⟨some b, eq, b, rfl⟩
  obtain ⟨_, eq, b, rfl⟩ := told
  exact ⟨b, eq⟩

/-- Where all of several conditions are unknown, so is whether one of them holds. -/
theorem Unknown.anyOf (first : Unknown engine row p) (others : ∀ q ∈ rest, Unknown engine row q) :
    Unknown engine row (.group (.anyOf p rest)) := by
  have told : ∃ a, (Predicate.anyOf p rest).eval engine row = .ok a ∧ a = none := by
    apply eval_anyOf
    · rintro _ _ rfl rfl
      rfl
    · exact ⟨none, first, rfl⟩
    · exact fun q member => ⟨none, others q member, rfl⟩
  obtain ⟨_, eq, rfl⟩ := told
  exact eq

theorem Definite.not_unknown (definite : Definite engine row p) : ¬ Unknown engine row p := by
  obtain ⟨b, eq⟩ := definite
  simp [Unknown, eq]

/-- A condition that is not unknown and its negation share out the rows. -/
theorem Definite.selects_not (definite : Definite engine row p) :
    (Predicate.not p).Selects engine row ↔ ¬ p.Selects engine row := by
  obtain ⟨b, eq⟩ := definite
  simp only [Predicate.Selects, Predicate.eval, eq]
  -- Of the two truths that are left one is the negation of the other.
  cases b
  · exact ⟨fun _ => nofun, fun _ => rfl⟩
  · exact ⟨nofun, fun other => absurd rfl other⟩

/-- Of a row of which a condition is unknown, neither the condition nor its negation takes hold. -/
theorem Unknown.not_selects (unknown : Unknown engine row p) :
    ¬ p.Selects engine row ∧ ¬ (Predicate.not p).Selects engine row := by
  simp only [Predicate.Selects, Predicate.eval, show p.eval engine row = .ok none from unknown]
  exact ⟨nofun, nofun⟩

/-! ### Questions and comparisons -/

theorem definite_ask {t : Term} {v : Option δ} (known : t.eval engine row = .ok v)
    (question : Question) : Definite engine row (.ask t question) := by
  refine ⟨engine.answers v question, ?_⟩
  simp only [Predicate.eval, known]
  rfl

/-- Two values that are not null compare one way or the other. -/
theorem definite_compare {left right : Term} {a b : δ} (known : left.eval engine row = .ok (some a))
    (known' : right.eval engine row = .ok (some b)) (comparison : Comparison) :
    Definite engine row (.compare left comparison right) := by
  refine ⟨engine.compare comparison a b, ?_⟩
  simp only [Predicate.eval, known, known']
  rfl

theorem unknown_compare {left right : Term} {v : Option δ}
    (missing : left.eval engine row = .ok none) (known : right.eval engine row = .ok v)
    (comparison : Comparison) : Unknown engine row (.compare left comparison right) := by
  simp only [Unknown, Predicate.eval, missing, known]
  rfl

end DomainScout.Sql
