import DomainScout.Catalog.Role
import DomainScout.Proofs.Text.Case

/-!
# Resolved roles

Whatever columns a table has, the column that plays a role is one of them and has a name: known
names and fragments are never empty, so a column without a name matches none of them. Whether a role
is played can therefore be asked of the columns as they were given.

Main statement: `RoleMap.column?_resolve`.
-/
namespace DomainScout

open Text

namespace Role

variable {role : Role} {catalog : Catalog} {column : Column}

theorem lower_candidates (role : Role) : ∀ candidate ∈ role.candidates, lower candidate ≠ "" := by
  cases role <;> decide +kernel

theorem fragments_ne_empty (role : Role) : ∀ fragment ∈ role.fragments, fragment.toList ≠ [] := by
  cases role <;> decide +kernel

theorem name_of_byCandidate (found : role.byCandidate catalog = some column) :
    column ∈ catalog.columns ∧ column.name ≠ "" := by
  obtain ⟨candidate, known, listed⟩ := List.exists_of_findSome?_eq_some found
  have same := List.find?_some listed
  refine ⟨List.mem_of_find?_eq_some listed, fun nameless => ?_⟩
  apply lower_candidates role candidate known
  simpa [nameless, lower, lowerChars, lowerAfter] using same.symm

theorem name_of_byFragment (found : role.byFragment catalog = some column) :
    column ∈ catalog.columns ∧ column.name ≠ "" := by
  have suits := List.find?_some found
  refine ⟨List.mem_of_find?_eq_some found, fun nameless => ?_⟩
  simp only [Role.suits, Bool.and_eq_true, List.any_eq_true] at suits
  obtain ⟨⟨fragment, known, occurs⟩, _⟩ := suits
  apply fragments_ne_empty role fragment known
  simpa [nameless, lower, lowerChars, lowerAfter, occursIn] using occurs

/-- The column that plays a role is a column of the table, and it has a name. -/
theorem name_of_column? (found : role.column? catalog = some column) :
    column ∈ catalog.columns ∧ column.name ≠ "" := by
  rcases Option.or_eq_some_iff.mp found with known | ⟨_, suits⟩
  · exact name_of_byCandidate known
  · exact name_of_byFragment suits

end Role

namespace RoleMap

/-- Since no column that plays a role lacks a name, none is left out for it. -/
theorem column?_resolve (catalog : Catalog) (role : Role) :
    (resolve catalog).column? role = (resolve catalog).given role := by
  cases found : role.column? catalog with
  | none => simp [column?, resolve, found]
  | some column => simp [column?, resolve, found, (role.name_of_column? found).2]

end RoleMap

end DomainScout
