import DomainScout.Text.Blank
import Mathlib.Data.List.DropRight

/-!
# Trimming padded texts

Main statements: `trimBoth_padded`, trimming takes away exactly the padding of a text whose own ends
are not trimmed; `exists_padding`, only padding is taken away; `head?_trimBoth` and `getLast?_trimBoth`,
no padding is left; `trimBoth_pad`, more padding makes no difference.
-/
namespace DomainScout.Text

variable {p : Char → Bool} {cs : List Char} {c : Char}

theorem dropWhile_padded {pad cs : List Char} (padding : ∀ c ∈ pad, p c = true)
    (solid : cs.head?.any p = false) : (pad ++ cs).dropWhile p = cs := by
  rw [List.dropWhile_append_of_pos padding]
  cases cs with
  | nil => rfl
  | cons c rest =>
    have kept : p c = false := by simpa using solid
    simp [kept]

theorem dropEndWhile_padded {pad cs : List Char} (padding : ∀ c ∈ pad, p c = true)
    (solid : cs.getLast?.any p = false) : dropEndWhile p (cs ++ pad) = cs := by
  have reversed : ∀ c ∈ pad.reverse, p c = true := fun c member =>
    padding c (List.mem_reverse.mp member)
  rw [dropEndWhile, List.reverse_append, dropWhile_padded reversed (by simpa using solid),
    List.reverse_reverse]

/-- What ends in a character that is kept is kept, and the rest is trimmed on its own. -/
theorem dropEndWhile_append {solid rest : List Char} (last : solid.getLast?.any p = false) :
    dropEndWhile p (solid ++ rest) = solid ++ dropEndWhile p rest := by
  have kept : solid.reverse.dropWhile p = solid.reverse := by
    have whole := @dropWhile_padded p [] solid.reverse nofun (by simpa using last)
    rwa [List.nil_append] at whole
  simp only [dropEndWhile, List.reverse_append, List.dropWhile_append, kept]
  split
  next nothing => rw [List.isEmpty_iff.mp nothing, List.reverse_nil, List.append_nil, List.reverse_reverse]
  · rw [List.reverse_append, List.reverse_reverse]

/-- Trimming takes away the padding and nothing else. -/
theorem trimBoth_padded {before cs after : List Char} (left : ∀ c ∈ before, p c = true)
    (right : ∀ c ∈ after, p c = true) (first : cs.head?.any p = false)
    (last : cs.getLast?.any p = false) : trimBoth p (before ++ cs ++ after) = cs := by
  rw [trimBoth, List.append_assoc]
  cases cs with
  | nil =>
    have nothing : (before ++ ([] ++ after)).dropWhile p = [] := by
      have all : ∀ c ∈ before ++ after, p c = true := by
        intro c member
        rcases List.mem_append.mp member with inBefore | inAfter
        · exact left c inBefore
        · exact right c inAfter
      have empty : ([] : List Char).head?.any p = false := rfl
      simpa using dropWhile_padded all empty
    rw [nothing]
    rfl
  | cons c rest =>
    have inner : (c :: rest ++ after).head?.any p = false := by simpa using first
    rw [dropWhile_padded left inner, dropEndWhile_padded right last]

/-- Where the padding at the end is part of a longer rest, that rest is trimmed at its end. -/
theorem trimBoth_append {before solid rest : List Char} (left : ∀ c ∈ before, p c = true)
    (filled : solid ≠ []) (first : solid.head?.any p = false) (last : solid.getLast?.any p = false) :
    trimBoth p (before ++ (solid ++ rest)) = solid ++ dropEndWhile p rest := by
  have inner : (solid ++ rest).head?.any p = false := by
    rw [List.head?_append_of_ne_nil _ filled]
    exact first
  rw [trimBoth, dropWhile_padded left inner, dropEndWhile_append last]

theorem trimBoth_eq_self (first : cs.head?.any p = false) (last : cs.getLast?.any p = false) :
    trimBoth p cs = cs := by
  have whole := @trimBoth_padded p [] cs [] nofun nofun first last
  rwa [List.nil_append, List.append_nil] at whole

theorem trimBoth_starts : trimBoth p cs <+: cs.dropWhile p := List.rdropWhile_prefix p _

/-- A text is what trimming leaves of it, with the padding put back. -/
theorem exists_padding (p : Char → Bool) (cs : List Char) :
    ∃ before after, cs = before ++ (trimBoth p cs ++ after) ∧
      (∀ c ∈ before, p c = true) ∧ ∀ c ∈ after, p c = true := by
  refine ⟨cs.takeWhile p, (cs.dropWhile p).rtakeWhile p, ?_, ?_, ?_⟩
  · have back : trimBoth p cs ++ (cs.dropWhile p).rtakeWhile p = cs.dropWhile p :=
      List.rdropWhile_append_rtakeWhile
    rw [back, List.takeWhile_append_dropWhile]
  · exact fun c => List.mem_takeWhile_imp
  · exact fun c => List.mem_rtakeWhile_imp

theorem mem_of_mem_trimBoth (member : c ∈ trimBoth p cs) : c ∈ cs :=
  (List.dropWhile_suffix p).subset (trimBoth_starts.subset member)

theorem head?_trimBoth (first : (trimBoth p cs).head? = some c) : p c = false := by
  obtain ⟨rest, whole⟩ := @trimBoth_starts p cs
  have starts : (cs.dropWhile p).head? = some c := by
    rw [← whole, List.head?_append, first, Option.some_or]
  have solid := List.head?_dropWhile_not p cs
  rw [starts] at solid
  exact solid

theorem getLast?_trimBoth (last : (trimBoth p cs).getLast? = some c) : p c = false := by
  have filled : trimBoth p cs ≠ [] := by
    intro nothing
    rw [nothing] at last
    cases last
  rw [← (List.getLast_eq_iff_getLast?_eq_some filled).mpr last]
  exact eq_false_of_ne_true (List.rdropWhile_last_not p _ filled)

section Pad

variable {before after : List Char} (left : ∀ c ∈ before, p c = true) (right : ∀ c ∈ after, p c = true)
include left right

/-- Padding a text makes no difference to what trimming leaves of it. -/
theorem trimBoth_pad : trimBoth p (before ++ cs ++ after) = trimBoth p cs := by
  obtain ⟨front, back, whole, ahead, behind⟩ := exists_padding p cs
  have gathered : before ++ cs ++ after = (before ++ front) ++ trimBoth p cs ++ (back ++ after) := by
    conv_lhs => rw [whole]
    simp only [List.append_assoc]
  rw [gathered]
  apply trimBoth_padded
  · exact List.forall_mem_append.mpr ⟨left, ahead⟩
  · exact List.forall_mem_append.mpr ⟨behind, right⟩
  · exact (Option.any_eq_false ..).mpr fun c => head?_trimBoth
  · exact (Option.any_eq_false ..).mpr fun c => getLast?_trimBoth

end Pad

theorem trimBoth_trimBoth : trimBoth p (trimBoth p cs) = trimBoth p cs := by
  obtain ⟨before, after, whole, left, right⟩ := exists_padding p cs
  have padded := @trimBoth_pad p (trimBoth p cs) before after left right
  rwa [List.append_assoc, ← whole, eq_comm] at padded

/-- Nothing is left of just those texts that are padding all through. -/
theorem trimBoth_eq_nil_iff : trimBoth p cs = [] ↔ ∀ c ∈ cs, p c = true := by
  constructor
  · intro nothing
    obtain ⟨before, after, whole, left, right⟩ := exists_padding p cs
    rw [nothing, List.nil_append] at whole
    rw [whole]
    exact List.forall_mem_append.mpr ⟨left, right⟩
  · intro padding
    have padded : trimBoth p (cs ++ [] ++ []) = [] := @trimBoth_pad p [] cs [] padding nofun
    rwa [List.append_nil, List.append_nil] at padded

end DomainScout.Text
