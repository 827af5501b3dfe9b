import DomainScout.Schedule.Agenda

/-!
# Facts about agendas

The earliest item of an agenda stands behind later ones only. Where only some items are kept, the
earliest of these is found in their order. What the items weigh together is the sum of their weights.

Main statements: `next?_eq_some_iff` and `next?_sift`.
-/
namespace DomainScout.Agenda

variable {α : Type}

section Earliest

variable {agenda rest : Agenda α} {timed : Timed α}

theorem eq_nil_of_next? (nothing : agenda.next? = none) : agenda = [] := by
  cases agenda with
  | nil => rfl
  | cons first rest =>
    unfold next? at nothing
    split at nothing
    · cases nothing
    · split at nothing <;> cases nothing

/-- The earliest item stands behind later ones only, and none of those behind it is earlier. -/
theorem split_of_next? (next : agenda.next? = some (timed, rest)) :
    ∃ before after, agenda = before ++ timed :: after ∧ rest = before ++ after ∧
      (∀ other ∈ before, timed.due < other.due) ∧ ∀ other ∈ after, timed.due ≤ other.due := by
  -- The earliest item is the first one, or the earliest of the others, one place further on.
  induction agenda generalizing timed rest with
  | nil => cases next
  | cons first others ih =>
    unfold next? at next
    split at next
    next nothing =>
      cases next
      have empty : others = [] := eq_nil_of_next? nothing
      exact ⟨[], [], by rw [empty]; rfl, empty, nofun, nofun⟩
    next later remaining found =>
      obtain ⟨before, after, rfl, rfl, strictly, weakly⟩ := ih found
      by_cases earlier : later.due < first.due
      · simp only [earlier, if_true, Option.some.injEq, Prod.mk.injEq] at next
        obtain ⟨rfl, rfl⟩ := next
        refine ⟨first :: before, after, rfl, rfl, ?_, weakly⟩
        simpa [earlier] using strictly
      · simp only [earlier, if_false, Option.some.injEq, Prod.mk.injEq] at next
        obtain ⟨rfl, rfl⟩ := next
        refine ⟨[], _, rfl, rfl, nofun, ?_⟩
        intro other member
        simp only [List.mem_append, List.mem_cons] at member
        rcases member with ahead | rfl | behind
        · have := strictly other ahead
          omega
        · omega
        · have := weakly other behind
          omega

theorem mem_of_next? (next : agenda.next? = some (timed, rest)) : timed ∈ agenda := by
  obtain ⟨before, after, rfl, _⟩ := split_of_next? next
  exact List.mem_append_right _ List.mem_cons_self

/-- An item comes first exactly if those before it are later and those behind it no earlier. -/
theorem next?_eq_some_iff : agenda.next? = some (timed, rest) ↔
    ∃ before after, agenda = before ++ timed :: after ∧ rest = before ++ after ∧
      (∀ other ∈ before, timed.due < other.due) ∧ ∀ other ∈ after, timed.due ≤ other.due := by
  refine ⟨split_of_next?, ?_⟩
  rintro ⟨before, after, rfl, rfl, strictly, weakly⟩
  induction before with
  | nil =>
    rw [List.nil_append, next?]
    split
    · rfl
    next later remaining found =>
      have behind := weakly later (mem_of_next? found)
      rw [if_neg (by omega)]
      rfl
  | cons first before ih =>
    have ahead := strictly first List.mem_cons_self
    rw [List.cons_append, next?, ih fun other member => strictly other (List.mem_cons_of_mem _ member)]
    simp [ahead]

end Earliest

section Sifting

variable {β : Type} {keep : α → Option β}

/-- What is kept of the items, due as before. -/
def sift (keep : α → Option β) (agenda : Agenda α) : Agenda β :=
  agenda.filterMap fun timed => (keep timed.item).map (⟨timed.due, ·⟩)

@[simp] theorem sift_nil : sift keep [] = [] := rfl

@[simp] theorem sift_append (agenda more : Agenda α) :
    sift keep (agenda ++ more) = sift keep agenda ++ sift keep more := List.filterMap_append

theorem sift_cons_some {timed : Timed α} {item : β} (kept : keep timed.item = some item) (rest : Agenda α) :
    sift keep (timed :: rest) = ⟨timed.due, item⟩ :: sift keep rest := by
  simp [sift, kept]

theorem sift_cons_none {timed : Timed α} (gone : keep timed.item = none) (rest : Agenda α) :
    sift keep (timed :: rest) = sift keep rest := by
  simp [sift, gone]

theorem sift_enter_some {item : α} {item' : β} (kept : keep item = some item') (agenda : Agenda α)
    (due : Nat) : sift keep (agenda.enter due item) = (sift keep agenda).enter due item' := by
  simp [enter, sift, kept]

theorem sift_enter_none {item : α} (gone : keep item = none) (agenda : Agenda α) (due : Nat) :
    sift keep (agenda.enter due item) = sift keep agenda := by
  simp [enter, sift, gone]

variable {agenda rest : Agenda α} {timed : Timed α}

theorem exists_of_mem_sift {sifted : Timed β} (member : sifted ∈ sift keep agenda) :
    ∃ earlier ∈ agenda, earlier.due = sifted.due ∧ keep earlier.item = some sifted.item := by
  obtain ⟨earlier, known, becomes⟩ := List.mem_filterMap.mp member
  obtain ⟨item, kept, rfl⟩ := Option.map_eq_some_iff.mp becomes
  exact ⟨earlier, known, rfl, kept⟩

/-- Where an item stands among what is kept, and what is left there without it. -/
theorem sift_place {place : Nat} {item : β} (found : agenda[place]? = some timed)
    (kept : keep timed.item = some item) :
    (sift keep agenda)[(sift keep (agenda.take place)).length]? = some ⟨timed.due, item⟩ ∧
      (sift keep agenda).eraseIdx (sift keep (agenda.take place)).length =
        sift keep (agenda.eraseIdx place) := by
  obtain ⟨inside, rfl⟩ := List.getElem?_eq_some_iff.mp found
  have split : sift keep agenda = sift keep (agenda.take place) ++
      ⟨agenda[place].due, item⟩ :: sift keep (List.drop (place + 1) agenda) := by
    rw [← sift_cons_some kept, ← sift_append, List.getElem_cons_drop, List.take_append_drop]
  rw [agenda.eraseIdx_eq_take_drop_succ, sift_append, split]
  simp [List.eraseIdx_append_of_length_le]

theorem sift_eraseIdx_none {place : Nat} (found : agenda[place]? = some timed)
    (gone : keep timed.item = none) : sift keep (agenda.eraseIdx place) = sift keep agenda := by
  obtain ⟨inside, rfl⟩ := List.getElem?_eq_some_iff.mp found
  have without := sift_cons_none gone (List.drop (place + 1) agenda)
  rw [List.eraseIdx_eq_take_drop_succ, sift_append, ← without, List.getElem_cons_drop, ← sift_append,
    List.take_append_drop]

/-- The earliest item stays the earliest one among what is kept. -/
theorem next?_sift {item : β} (next : agenda.next? = some (timed, rest))
    (kept : keep timed.item = some item) :
    (sift keep agenda).next? = some (⟨timed.due, item⟩, sift keep rest) := by
  obtain ⟨before, after, rfl, rfl, strictly, weakly⟩ := split_of_next? next
  refine next?_eq_some_iff.mpr ⟨sift keep before, sift keep after, ?_, sift_append before after, ?_, ?_⟩
  · rw [sift_append, sift_cons_some kept]
  · intro other member
    obtain ⟨earlier, known, due, _⟩ := exists_of_mem_sift member
    rw [← due]
    exact strictly earlier known
  · intro other member
    obtain ⟨earlier, known, due, _⟩ := exists_of_mem_sift member
    rw [← due]
    exact weakly earlier known

/-- If nothing is kept of the earliest item, all that is kept is there without it, and due later. -/
theorem sift_rest_of_next? (next : agenda.next? = some (timed, rest)) (gone : keep timed.item = none) :
    sift keep rest = sift keep agenda ∧ ∀ other ∈ sift keep agenda, timed.due ≤ other.due := by
  obtain ⟨before, after, rfl, rfl, strictly, weakly⟩ := split_of_next? next
  rw [sift_append, sift_append, sift_cons_none gone, ← sift_append]
  refine ⟨rfl, ?_⟩
  intro other member
  obtain ⟨earlier, known, due, _⟩ := exists_of_mem_sift member
  rw [← due]
  rcases List.mem_append.mp known with ahead | behind
  · exact Nat.le_of_lt (strictly earlier ahead)
  · exact weakly earlier behind

end Sifting

section Weight

variable (weight : α → Nat)

@[simp] theorem total_nil : total weight [] = 0 := rfl

@[simp] theorem total_cons (first : Timed α) (rest : Agenda α) :
    total weight (first :: rest) = weight first.item + total weight rest := rfl

theorem total_append (before rest : Agenda α) :
    total weight (before ++ rest) = total weight before + total weight rest := by
  induction before with
  | nil => exact (Nat.zero_add _).symm
  | cons first before ih =>
    rw [List.cons_append, total_cons, total_cons, ih]
    omega

theorem total_enter (agenda : Agenda α) (due : Nat) (item : α) :
    (agenda.enter due item).total weight = agenda.total weight + weight item :=
  total_append weight agenda [⟨due, item⟩]

theorem total_drop_le (agenda : Agenda α) (test : α → Bool) :
    (agenda.drop test).total weight ≤ agenda.total weight := by
  induction agenda with
  | nil => exact Nat.le_refl _
  | cons first rest ih =>
    unfold drop at ih ⊢
    rw [List.filter_cons]
    split
    · simp only [total_cons]
      omega
    · rw [total_cons]
      omega

end Weight

end DomainScout.Agenda
