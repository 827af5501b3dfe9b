import DomainScout.Proofs.Text.Case

/-!
# Patterns

In a pattern `%` stands for any text and `_` for any one character; every other character stands for
itself, and there is no way to write a `%` or a `_` that does. `LIKE` compares the characters as they
are, `ILIKE` after folding their case.

A pattern in which no such character occurs says what it says literally. Only then: of any other
pattern there is a text that matches it and does not contain it.

Main statements: `like_append`, `like_iff_of_verbatim`, `Folding.like_fill` with `Folding.verbatim_of_sublist_fill`.
-/
namespace DomainScout.Sql

/-- A text matches a pattern. -/
def like : List Char → List Char → Bool
  | [], s => s.isEmpty
  | c :: p, s =>
    if c = '%' then s.tails.any (like p)
    else match s with
      | [] => false
      | d :: s => (c = '_' || c = d) && like p s

/-- No character of the pattern stands for anything but itself. -/
def Verbatim (p : List Char) : Prop := '%' ∉ p ∧ '_' ∉ p

instance (p : List Char) : Decidable (Verbatim p) := inferInstanceAs (Decidable (_ ∧ _))

section Like

variable {c : Char} {p q s : List Char}

@[simp]
theorem like_nil : like [] s = true ↔ s = [] := by
  simp [like]

/-- What `%` stands for can be anything, so some end of the text matches the rest. -/
@[simp]
theorem like_percent : like ('%' :: p) s = true ↔ ∃ t, t <:+ s ∧ like p t = true := by
  simp [like]

theorem like_cons (single : c ≠ '%') :
    like (c :: p) s = true ↔ ∃ d t, s = d :: t ∧ (c = '_' ∨ c = d) ∧ like p t = true := by
  cases s with
  | nil => simp [like, single]
  | cons d t => simp [like, single]

/-- One pattern after another is matched by a text that splits into matches of both. -/
theorem like_append : like (p ++ q) s = true ↔
    ∃ a b, s = a ++ b ∧ like p a = true ∧ like q b = true := by
  -- What the first character of the pattern stands for goes to the front of the first part.
  induction p generalizing s with
  | nil => simp
  | cons c p ih =>
    rw [List.cons_append]
    by_cases any : c = '%'
    · subst any
      simp only [like_percent, ih]
      constructor
      · rintro ⟨_, ⟨before, rfl⟩, a, b, rfl, first, second⟩
        exact ⟨before ++ a, b, by simp, ⟨a, List.suffix_append .., first⟩, second⟩
      · rintro ⟨_, b, rfl, ⟨a, ⟨before, rfl⟩, first⟩, second⟩
        exact ⟨a ++ b, ⟨before, by simp⟩, a, b, rfl, first, second⟩
    · simp only [like_cons any, ih]
      constructor
      · rintro ⟨d, _, rfl, stands, a, b, rfl, first, second⟩
        exact ⟨d :: a, b, rfl, ⟨d, a, rfl, stands, first⟩, second⟩
      · rintro ⟨_, b, rfl, ⟨d, a, rfl, stands, first⟩, second⟩
        exact ⟨d, a ++ b, rfl, stands, a, b, rfl, first, second⟩

theorem like_self : like p p = true := by
  induction p with
  | nil => simp
  | cons c p ih =>
    by_cases any : c = '%'
    · subst any
      exact like_percent.mpr ⟨p, List.suffix_cons .., ih⟩
    · exact (like_cons any).mpr ⟨c, p, rfl, .inr rfl, ih⟩

theorem like_iff_of_verbatim (verbatim : Verbatim p) : like p s = true ↔ s = p := by
  induction p generalizing s with
  | nil => simp
  | cons c p ih =>
    obtain ⟨noAny, noOne⟩ := verbatim
    obtain ⟨any, noAny⟩ := List.ne_and_not_mem_of_not_mem_cons noAny
    obtain ⟨one, noOne⟩ := List.ne_and_not_mem_of_not_mem_cons noOne
    rw [like_cons any.symm]
    constructor
    · rintro ⟨d, t, rfl, stands, rest⟩
      rw [stands.resolve_left one.symm, (ih ⟨noAny, noOne⟩).mp rest]
    · rintro rfl
      exact ⟨c, p, rfl, .inr rfl, like_self⟩

/-! ### Patterns with `%` at their ends -/

theorem like_start : like (p ++ ['%']) s = true ↔ ∃ part, part <+: s ∧ like p part = true := by
  rw [like_append]
  constructor
  · rintro ⟨a, b, rfl, first, -⟩
    exact ⟨a, List.prefix_append .., first⟩
  · rintro ⟨a, ⟨b, rfl⟩, first⟩
    exact ⟨a, b, rfl, first, like_percent.mpr ⟨[], List.nil_suffix, like_nil.mpr rfl⟩⟩

theorem like_inside :
    like ('%' :: (p ++ ['%'])) s = true ↔ ∃ part, part <:+: s ∧ like p part = true := by
  simp only [like_percent, like_start]
  constructor
  · rintro ⟨t, behind, part, first, found⟩
    exact ⟨part, first.isInfix.trans behind.isInfix, found⟩
  · rintro ⟨part, ⟨before, after, rfl⟩, found⟩
    exact ⟨part ++ after, ⟨before, by simp⟩, part, List.prefix_append .., found⟩

end Like

/-! ### Letter case -/

/-- A way to fold the case of characters. It leaves alone what stands for others in a pattern. -/
structure Folding where
  fold : Char → Char
  percent : ∀ c, fold c = '%' ↔ c = '%'
  underscore : ∀ c, fold c = '_' ↔ c = '_'

namespace Folding

/-- The case of characters is not folded, as `LIKE` has it. -/
def exact : Folding := ⟨id, fun _ => .rfl, fun _ => .rfl⟩

theorem toLower_eq_iff {c d : Char} (small : d.toLower = d) (before : d.toNat < 'a'.toNat) :
    c.toLower = d ↔ c = d := by
  constructor
  · rintro rfl
    by_contra changes
    have moved := Text.le_toNat_of_toLower_ne (Ne.symm changes)
    omega
  · rintro rfl
    exact small

/-- The case of the letters from `A` to `Z` is folded. -/
def ascii : Folding where
  fold := Char.toLower
  percent _ := toLower_eq_iff (by decide) (by decide)
  underscore _ := toLower_eq_iff (by decide) (by decide)

variable (folding : Folding)

/-- A text in folded case. -/
def text (s : String) : List Char := s.toList.map folding.fold

/-- A text matches a pattern, but for letter case. -/
def likes (p s : String) : Bool := like (folding.text p) (folding.text s)

theorem verbatim_iff {p : List Char} : Verbatim (p.map folding.fold) ↔ Verbatim p := by
  simp [Verbatim, folding.percent, folding.underscore]

/-- A text that matches a pattern: nothing for each `%`, and a letter for each `_`. -/
def fill (p : List Char) : List Char :=
  p.flatMap fun c => if c = '%' then [] else if c = '_' then ['x'] else [c]

theorem like_fill (p : List Char) :
    like (p.map folding.fold) ((fill p).map folding.fold) = true := by
  induction p with
  | nil => rfl
  | cons c p ih =>
    by_cases any : c = '%'
    · have anyFolded : folding.fold c = '%' := (folding.percent c).mpr any
      rw [List.map_cons, anyFolded, like_percent]
      refine ⟨_, ?_, ih⟩
      simp [fill, any]
    · have single : folding.fold c ≠ '%' := fun folded => any ((folding.percent c).mp folded)
      rw [List.map_cons, like_cons single]
      by_cases one : c = '_'
      · refine ⟨folding.fold 'x', _, ?_, .inl ((folding.underscore c).mpr one), ih⟩
        simp [fill, one]
      · refine ⟨folding.fold c, _, ?_, .inr rfl, ih⟩
        simp [fill, any, one]

theorem length_fill (p : List Char) : (fill p).length + p.count '%' = p.length := by
  induction p with
  | nil => rfl
  | cons c p ih =>
    unfold fill at ih ⊢
    by_cases any : c = '%'
    · simp [any, ← ih]
      omega
    · by_cases one : c = '_' <;> simp [any, one, ← ih] <;> omega

theorem underscore_not_mem_fill (p : List Char) : '_' ∉ fill p := by
  unfold fill
  simp only [List.mem_flatMap, not_exists, not_and]
  intro c _ member
  split at member
  next => cases member
  next =>
    split at member
    next => simp at member
    next one => exact one (List.mem_singleton.mp member).symm

/-- A pattern that is part of what fills it stands for nothing but itself. -/
theorem verbatim_of_sublist_fill {p : List Char}
    (part : List.Sublist (p.map folding.fold) ((fill p).map folding.fold)) : Verbatim p := by
  have lengths := part.length_le
  simp only [List.length_map] at lengths
  have counted := length_fill p
  constructor
  · -- A `%` would make the filled text shorter than the pattern.
    intro member
    have positive := List.count_pos_iff.mpr member
    omega
  · intro member
    -- The folded `_` is still one, and it is in the filled text only if a `_` was.
    have folded := part.subset (List.mem_map.mpr ⟨_, member, rfl⟩)
    rw [(folding.underscore '_').mpr rfl] at folded
    obtain ⟨c, filled, eq⟩ := List.mem_map.mp folded
    rw [(folding.underscore c).mp eq] at filled
    exact underscore_not_mem_fill p filled

end Folding

end DomainScout.Sql
