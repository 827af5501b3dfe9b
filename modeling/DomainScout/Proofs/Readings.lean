import Mathlib.Data.List.Nodup

/-!
# Readings of many items

The items of a list are read one after the other, and the reading of the list fails with the first
item that cannot be read. An item is found by its key if it shares the key with no other item.
-/
namespace DomainScout

variable {ε α β : Type} {f : α → Except ε β} {items : List α}

theorem mapM_eq_ok {g : α → β} (each : ∀ item ∈ items, f item = .ok (g item)) :
    items.mapM f = .ok (items.map g) := by
  induction items with
  | nil => rfl
  | cons first rest ih =>
    rw [List.forall_mem_cons] at each
    rw [List.mapM_cons, each.1, ih each.2]
    rfl

theorem mapM_fails {item : α} (member : item ∈ items) (fails : ∃ error, f item = .error error) :
    ∃ error, items.mapM f = .error error := by
  induction items with
  | nil => cases member
  | cons first rest ih =>
    rw [List.mapM_cons]
    cases read : f first with
    | error error => exact ⟨error, rfl⟩
    | ok b =>
      rcases List.mem_cons.mp member with rfl | inRest
      · obtain ⟨error, failed⟩ := fails
        cases read.symm.trans failed
      · obtain ⟨error, failed⟩ := ih inRest
        exact ⟨error, by rw [failed]; rfl⟩

theorem mem_of_mapM_eq_ok {results : List β} {b : β} (maps : items.mapM f = .ok results) :
    b ∈ results ↔ ∃ a ∈ items, f a = .ok b := by
  induction items generalizing results with
  | nil =>
    cases maps
    simp
  | cons a rest ih =>
    rw [List.mapM_cons] at maps
    cases first : f a with
    | error fault =>
      rw [first] at maps
      cases maps
    | ok b' =>
      rw [first] at maps
      cases others : rest.mapM f with
      | error fault =>
        rw [others] at maps
        cases maps
      | ok more =>
        rw [others] at maps
        cases maps
        simp [ih others, first, eq_comm]

theorem find?_eq_some_iff_of_nodup {κ : Type} [BEq κ] [LawfulBEq κ] {key : α → κ} {k : κ} {item : α}
    (distinct : (items.map key).Nodup) :
    items.find? (fun other => key other == k) = some item ↔ item ∈ items ∧ key item = k := by
  constructor
  · intro found
    have named := List.find?_some found
    exact ⟨List.mem_of_find?_eq_some found, eq_of_beq named⟩
  · rintro ⟨member, rfl⟩
    cases found : items.find? (fun other => key other == key item) with
    | none =>
      have absent := List.find?_eq_none.mp found item member
      simp at absent
    | some other =>
      have named := List.find?_some found
      rw [List.inj_on_of_nodup_map distinct (List.mem_of_find?_eq_some found) member (eq_of_beq named)]

end DomainScout
