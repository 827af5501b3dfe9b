import DomainScout.Proofs.Sql.Truth

/-!
# Bound numbers

A number that is bound in a condition may be cast to an integer where it stands. All parts of a
condition are evaluated, whatever the others come to. So where an integer of the database cannot hold
a number that is cast to one, the condition fails in every row.

Main statement: `Predicate.eval_fails`.
-/
namespace DomainScout.Sql

/-! ### Bound numbers -/

/-- The numbers that are bound in an expression, and whether each is cast to an integer at once. -/
def Term.numbers : Term → List (Bool × Int)
  | cast (bound (.int n)) .integer => [(true, n)]
  | bound (.int n) => [(false, n)]
  | bound _ | column _ | zero | now => []
  | asText t | lowered t | nonEmpty t | tryCast t _ | orZero t | cast t _ | yearsAgo t | daysAhead t =>
    t.numbers

namespace Predicate

/-- The numbers that are bound in a condition. -/
def numbers : Predicate → List (Bool × Int)
  | compare left _ right => left.numbers ++ right.numbers
  | among t _ | ask t _ => t.numbers
  | not p | group p => p.numbers
  | and p q | or p q => p.numbers ++ q.numbers

theorem numbers_anyOf (p : Predicate) (rest : List Predicate) :
    (anyOf p rest).numbers = p.numbers ++ rest.flatMap numbers := by
  induction rest generalizing p with
  | nil => simp [anyOf]
  | cons q rest ih => simp [anyOf, numbers, ih]

end Predicate

theorem Term.numbers_cast (t : Term) (type : SqlType) :
    (∃ n, t = bound (.int n) ∧ type = .integer ∧ (cast t type).numbers = [(true, n)]) ∨
      (cast t type).numbers = t.numbers := by
  by_cases whole : ∃ n, t = bound (.int n) ∧ type = .integer
  · obtain ⟨n, rfl, rfl⟩ := whole
    exact .inl ⟨n, rfl, rfl, rfl⟩
  · refine .inr ?_
    rw [numbers]
    exact fun n whole' integer => whole ⟨n, whole', integer⟩

theorem Term.mem_values_iff (t : Term) (n : Int) :
    Value.int n ∈ t.values ↔ ∃ cast, (cast, n) ∈ t.numbers := by
  induction t with
  | bound v => cases v <;> simp [values, numbers, eq_comm]
  | cast t type ih =>
    rcases numbers_cast t type with ⟨m, rfl, rfl, -⟩ | same
    · simp [values, numbers]
    · rw [values, same]
      exact ih
  | _ => simp_all [values, numbers]

theorem Predicate.mem_values_iff (p : Predicate) (n : Int) :
    Value.int n ∈ p.values ↔ ∃ cast, (cast, n) ∈ p.numbers := by
  induction p with
  | compare left _ right => simp [values, numbers, Term.mem_values_iff, exists_or]
  | among t choices => simp [values, numbers, Term.mem_values_iff]
  | ask t _ => exact t.mem_values_iff n
  | not p ih | group p ih => exact ih
  | and p q ih ih' | or p q ih ih' => simp [values, numbers, ih, ih', exists_or]

/-! ### Integers of the database -/

/-- The greatest number of 32 bits with a sign. -/
def greatestInteger : Int := 2147483647

/-- An engine whose integers have 32 bits. -/
def HoldsIntegers {δ : Type} (engine : Engine δ) : Prop := ∀ n d, engine.bound (.int n) = some d →
  ((engine.read? .integer d).isSome ↔ -greatestInteger - 1 ≤ n ∧ n ≤ greatestInteger)

/-- An engine on the values that are bound. It reads integers of 32 bits as such, and nothing else. -/
def Engine.ofValues : Engine Value where
  asText := id
  lowered := id
  isEmpty _ := false
  read?
    | .integer, .int n =>
      if -greatestInteger - 1 ≤ n ∧ n ≤ greatestInteger then some (.int n) else none
    | _, _ => none
  bound
    | .null => none
    | v => some v
  bound_eq_none v := by cases v <;> simp
  zero := .int 0
  now := .int 0
  yearsAgo := id
  daysAhead := id
  isTrue _ := false
  compare _ _ _ := false

theorem holdsIntegers_ofValues : HoldsIntegers .ofValues := by
  intro n d bound
  cases bound
  show (if -greatestInteger - 1 ≤ n ∧ n ≤ greatestInteger then some (Value.int n) else none).isSome ↔ _
  split
  · next within => exact iff_of_true rfl within
  · next without => exact iff_of_false Bool.false_ne_true without

section Engines

variable {δ : Type} {engine : Engine δ} {row : String → Option δ} {n : Int}

theorem cast_fails (holds : HoldsIntegers engine) (great : greatestInteger < n) :
    (Term.cast (.bound (.int n)) .integer).eval engine row = .error ⟨⟩ := by
  have there : engine.bound (.int n) ≠ none := by
    intro none
    cases (engine.bound_eq_none _).mp none
  obtain ⟨d, bound⟩ := Option.ne_none_iff_exists'.mp there
  have unread : engine.read? .integer d = none := by
    rw [Option.eq_none_iff_forall_ne_some]
    intro e reads
    have within := (holds n d bound).mp (by rw [reads]; rfl)
    omega
  rw [Term.eval, Term.eval, bound]
  simp only [bind, Except.bind, unread]
  rfl

theorem Term.eval_fails (holds : HoldsIntegers engine) (great : greatestInteger < n) {t : Term}
    (member : (true, n) ∈ t.numbers) : t.eval engine row = .error ⟨⟩ := by
  -- No expression is evaluated without its parts, so the failure comes through all of them.
  induction t with
  | bound v =>
    exfalso
    cases v <;> simp [Term.numbers] at member
  | cast t type ih =>
    rcases Term.numbers_cast t type with ⟨m, rfl, rfl, -⟩ | same
    · cases List.mem_singleton.mp member
      exact cast_fails holds great
    · rw [same] at member
      rw [Term.eval, ih member]
      rfl
  | column | zero | now => cases member
  | asText t ih | lowered t ih | nonEmpty t ih | tryCast t type ih | orZero t ih | yearsAgo t ih
  | daysAhead t ih =>
    rw [Term.eval, ih member]
    rfl

theorem Predicate.eval_fails (holds : HoldsIntegers engine) (great : greatestInteger < n)
    {p : Predicate} (member : (true, n) ∈ p.numbers) : p.eval engine row = .error ⟨⟩ := by
  -- No part spares the others: both sides of an `and` or an `or` are evaluated in any case.
  induction p with
  | compare left comparison right =>
    rcases List.mem_append.mp member with first | second
    · rw [Predicate.eval, Term.eval_fails holds great first]
      rfl
    · rw [Predicate.eval, Term.eval_fails holds great second]
      cases left.eval engine row <;> rfl
  | among t choices | ask t question =>
    rw [Predicate.eval, Term.eval_fails holds great member]
    rfl
  | not p ih =>
    rw [Predicate.eval, ih member]
    rfl
  | group p ih => exact ih member
  | and p q ih ih' | or p q ih ih' =>
    rcases List.mem_append.mp member with first | second
    · rw [Predicate.eval, ih first]
      rfl
    · rw [Predicate.eval, ih' second]
      cases p.eval engine row <;> rfl

end Engines

end DomainScout.Sql
