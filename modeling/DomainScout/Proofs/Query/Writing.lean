import DomainScout.Proofs.Query.Composition
import DomainScout.Proofs.Sql.Writing
import DomainScout.Query.Lifecycle.Writing

/-!
# Writing queries with a binder

One binder collects the parameters of a whole query. The conditions of a lifecycle state are written
into it after those of other filters; it makes no difference to them but that their placeholders count
on from the values that are there.

Main statements: `run_conditions`, `lifecycle_shifts`.
-/
namespace DomainScout.Query

open Sql

theorem writes_conditions (ps : List Predicate) :
    Writes (ps.mapM Predicate.write) (fun before => Predicate.texts before ps)
      (Predicate.allValues ps) := by
  induction ps with
  | nil => exact .pure []
  | cons p rest ih =>
    rw [List.mapM_cons]
    exact p.writes.bind fun text => ih.within (text :: ·)

/-- Written with one binder, a query has the texts and the parameters that it is compiled to. -/
theorem run_conditions (criteria : Criteria) (target : Target) :
    ((compile criteria target).conditions.mapM Predicate.write).run ⟨[]⟩ =
      ((compile criteria target).fragments, ⟨(compile criteria target).parameters⟩) :=
  writes_conditions (compile criteria target).conditions ⟨[]⟩

/-! ### The conditions of a state -/

theorem texts_toList (p : Option Predicate) (before : Nat) :
    Predicate.texts before p.toList = (p.map (Predicate.text before)).toList := by
  cases p <;> rfl

theorem map_text_not (p : Option Predicate) (before : Nat) :
    (p.map Predicate.not).map (Predicate.text before) =
      (p.map (Predicate.text before)).map ("NOT " ++ ·) := by
  cases p <;> rfl

theorem allValues_not (p : Option Predicate) :
    Predicate.allValues (p.map Predicate.not).toList = Predicate.allValues p.toList := by
  cases p <;> rfl

theorem allValues_append (ps qs : List Predicate) :
    Predicate.allValues (ps ++ qs) = Predicate.allValues ps ++ Predicate.allValues qs :=
  List.flatMap_append

theorem writes_deletion (target : Target) :
    Writes (writeDeletion target) (fun before => (deletion? target).map (Predicate.text before))
      (Predicate.allValues (deletion? target).toList) :=
  .optional (deletion? target)

/-- The conditions of a state are written as they are numbered. -/
theorem writes_lifecycle (state : Lifecycle) (days : Int) (target : Target) :
    Writes (writeLifecycle state days target)
      (fun before => Predicate.texts before (lifecycleConditions state days target))
      (Predicate.allValues (lifecycleConditions state days target)) := by
  -- A state that excludes deletion goes on with a condition of its own, if there is one.
  have goesOn (own : Option Predicate) := (writes_deletion target).bind fun deleted =>
    (Writes.optional own).within fun text =>
      (deleted.map ("NOT " ++ ·)).toList ++ text.toList
  cases state with
  | deleted =>
    simp only [lifecycleConditions, texts_toList]
    exact (writes_deletion target).within Option.toList
  | expiring =>
    simp only [lifecycleConditions, texts_append, texts_toList, map_text_not, allValues_append,
      allValues_not]
    exact goesOn (expiring? target days)
  | active =>
    simp only [lifecycleConditions, texts_append, texts_toList, map_text_not, allValues_append,
      allValues_not]
    exact goesOn (active? target)

/-! ### Deletion comes first -/

/-- Deletion is told by a column for the flag, the moment or the status. -/
theorem isSome_deletion?_iff (target : Target) :
    (deletion? target).isSome = true ↔
      ∃ role ∈ [Role.deletedFlag, .deletedAt, .status], (target.roles.column? role).isSome = true := by
  cases flag : target.roles.column? .deletedFlag <;> cases moment : target.roles.column? .deletedAt <;>
    simp [deletion?, flag, moment]

theorem deletion_prefix (state : Lifecycle) (days : Int) (target : Target) :
    Predicate.allValues (deletion? target).toList <+:
      Predicate.allValues (lifecycleConditions state days target) := by
  cases state with
  | deleted => exact List.prefix_rfl
  | expiring | active =>
    simp only [lifecycleConditions, allValues_append, allValues_not]
    exact List.prefix_append ..

/-- The first condition of a state tells deletion, or excludes it where the state does. -/
theorem head?_texts (state : Lifecycle) (days : Int) {target : Target} {p : Predicate}
    (told : deletion? target = some p) (before : Nat) :
    (Predicate.texts before (lifecycleConditions state days target)).head? =
      some (match state with
        | .deleted => p.text before
        | .expiring | .active => "NOT " ++ p.text before) := by
  cases state <;> simp [lifecycleConditions, told, Predicate.texts, Predicate.text]

/-- A binder with some values makes of the conditions of a state what an empty one does, with every
placeholder counted on after these values, and holds the same further values after them. The values of
what tells deletion come first; where a column tells it, the first condition is the one that tells it
or, for the states that exclude it, its negation. -/
theorem lifecycle_shifts (state : Lifecycle) (days : Option String) (target : Target)
    (start : List Value) :
    let conditions := lifecycleConditions state (daysOfText days) target
    let alone := (writeLifecycle state (daysOfText days) target).run ⟨[]⟩
    let after := (writeLifecycle state (daysOfText days) target).run ⟨start⟩
    alone = (Predicate.texts 0 conditions, ⟨Predicate.allValues conditions⟩) ∧
    after.1 = alone.1.map (renumber start.length) ∧
    after.2.values = start ++ alone.2.values ∧
    ((writeDeletion target).run ⟨[]⟩).2.values <+: alone.2.values ∧
    (((writeDeletion target).run ⟨start⟩).1.isSome = true ↔
      ∃ role ∈ [Role.deletedFlag, .deletedAt, .status], (target.roles.column? role).isSome = true) ∧
    ∀ deleted, ((writeDeletion target).run ⟨start⟩).1 = some deleted →
      after.1.head? = some (match state with
        | .deleted => deleted
        | .expiring | .active => "NOT " ++ deleted) := by
  intro conditions alone after
  -- Each run is what its writer makes of any binder, taken at the binder that it starts from.
  have own : alone = (Predicate.texts 0 conditions, ⟨Predicate.allValues conditions⟩) :=
    writes_lifecycle state (daysOfText days) target ⟨[]⟩
  have shifted : after =
      (Predicate.texts start.length conditions, ⟨start ++ Predicate.allValues conditions⟩) :=
    writes_lifecycle state (daysOfText days) target ⟨start⟩
  have evidence (bound : List Value) : (writeDeletion target).run ⟨bound⟩ =
      ((deletion? target).map (Predicate.text bound.length),
        ⟨bound ++ Predicate.allValues (deletion? target).toList⟩) :=
    writes_deletion target ⟨bound⟩
  refine ⟨own, ?_, ?_, ?_, ?_, ?_⟩
  · rw [shifted, own, texts_shift, Nat.zero_add]
  · rw [shifted, own]
  · rw [evidence, own, List.nil_append]
    exact deletion_prefix state (daysOfText days) target
  · rw [evidence, Option.isSome_map, isSome_deletion?_iff]
  · intro deleted told
    rw [evidence, Option.map_eq_some_iff] at told
    obtain ⟨p, derived, rfl⟩ := told
    rw [shifted]
    exact head?_texts state (daysOfText days) derived start.length

/-- A status whose column is called `is$1`, in the search for active domains after two other values. -/
theorem lifecycle_shifts_named_placeholder :
    let target : Target := ⟨.empty, ⟨fun role => if role = .status then some "is$1" else none⟩⟩
    let deleted := "(\"is$1\"::text ILIKE $3 OR \"is$1\"::text ILIKE $4 OR \"is$1\"::text ILIKE $5)"
    let start : List Value := [.text "shop%", .int 2]
    ((writeDeletion target).run ⟨start⟩).1 = some deleted ∧
    ((writeLifecycle .active (daysOfText none) target).run ⟨start⟩).1.head? =
      some ("NOT " ++ deleted) := by
  intro target deleted start
  have told : ((writeDeletion target).run ⟨start⟩).1 = some deleted := by decide +kernel
  have shifts := lifecycle_shifts .active none target start
  exact ⟨told, shifts.2.2.2.2.2 deleted told⟩

end DomainScout.Query
