import DomainScout.Text.Blank
import DomainScout.Text.Case
import Mathlib

/-!
# What lower-casing does to characters

Lower-casing writes letters. Digits, punctuation, blanks and control characters that stand in its
result stood in the text, those at an end at the same end. What it writes it leaves alone when it
comes across it again: no small letter has a small letter of its own. So lowering a second time
changes nothing, whatever gave a sigma its form.

Main statements: `mem_of_mem_lowerAfter`, `lowerAfter_eq_self`, `lowerAfter_lowerAfter`.
-/
namespace DomainScout.Text

/-- A character of ASCII before the letters, but for the null character. -/
def isMark (c : Char) : Bool := 0 < c.toNat && c.toNat < 'A'.toNat

/-- A character that lowering leaves alone. -/
def IsLow (c : Char) : Prop := lowerChar c = [c]

instance (c : Char) : Decidable (IsLow c) := inferInstanceAs (Decidable (lowerChar c = [c]))

/-- A character that lowering writes only where it stood before. -/
def IsOwn (d : Char) : Prop := d ≠ 'σ' ∧ d ≠ 'ς' ∧ ∀ c, d ∈ lowerChar c → d = c

/-! ### Progressions -/

namespace LowerRun

/-- The progression of the code points that a progression leads to. -/
def image (run : LowerRun) : LowerRun where
  first := (run.first + run.shift).toNat
  last := (run.last + run.shift).toNat
  step := if run.first = run.last then 2 else run.step
  shift := 0

/-- Two progressions have no code point in common: they lie apart, or they take turns. -/
def apart (run other : LowerRun) : Bool :=
  run.last.blt other.first || other.last.blt run.first
    || run.step == 2 && other.step == 2 && (run.first + other.first) % 2 != 0

/-- A range of code points as a progression that leads nowhere else. -/
def still (range : Nat × Nat) : LowerRun := ⟨range.1, range.2, 1, 0⟩

variable {run other : LowerRun} {code : Nat}

theorem covers_iff : run.covers code = true ↔
    run.first ≤ code ∧ code ≤ run.last ∧ (code - run.first) % run.step = 0 := by
  simp [covers, and_assoc]

theorem covers_still {range : Nat × Nat} :
    (still range).covers code = true ↔ range.1 ≤ code ∧ code ≤ range.2 := by
  simp [covers_iff, still, Nat.mod_one]

theorem not_covers_of_apart (apart : run.apart other = true) (covers : run.covers code = true) :
    other.covers code = false := by
  refine eq_false_of_ne_true fun covers' => ?_
  rw [covers_iff] at covers covers'
  simp only [LowerRun.apart, Bool.or_eq_true, Bool.and_eq_true, Nat.blt_eq, beq_iff_eq,
    bne_iff_ne] at apart
  rcases apart with (below | above) | ⟨⟨step, step'⟩, turns⟩
  · omega
  · omega
  · rw [step] at covers
    rw [step'] at covers'
    omega

theorem covers_image (covers : run.covers code = true) (least : 0 ≤ run.first + run.shift) :
    run.image.covers (code + run.shift).toNat = true := by
  rw [covers_iff] at covers ⊢
  have rise : (code + run.shift).toNat - (run.first + run.shift).toNat = code - run.first := by omega
  simp only [image, rise]
  refine ⟨by omega, by omega, ?_⟩
  split
  next alone =>
    have same : code - run.first = 0 := by omega
    rw [same]
  next => exact covers.2.2

end LowerRun

/-- The blank characters as progressions. -/
def blankRuns : List LowerRun := blankRanges.map .still

/-- The code points that are led somewhere, `İ` among them. -/
def ledRuns : List LowerRun := .still (0x130, 0x130) :: lowerRuns

/-- What the progressions of lower-case forms lead to lies behind the marks. -/
theorem le_shifted : ∀ run ∈ lowerRuns, ('A'.toNat : Int) ≤ run.first + run.shift := by
  decide +kernel

/-- Neither what they lead to nor a blank is led on. -/
theorem apart_ledRuns :
    ∀ run ∈ lowerRuns.map LowerRun.image ++ blankRuns, ledRuns.all run.apart = true := by
  decide +kernel

/-- They do not lead to blanks. -/
theorem apart_blankRuns : ∀ run ∈ lowerRuns, blankRuns.all run.image.apart = true := by
  decide +kernel

/-! ### Characters -/

variable {c d : Char}

/-- A letter of ASCII is lowered by 32 places, and everything else stays. -/
theorem toLower_cases (c : Char) : c.toLower = c ∨
    'A'.toNat ≤ c.toNat ∧ c.toNat ≤ 'Z'.toNat ∧ c.toLower.toNat = c.toNat + 32 := by
  unfold Char.toLower
  split
  next upper =>
    have first : 'A'.toNat ≤ c.toNat := upper.1
    have last : c.toNat ≤ 'Z'.toNat := upper.2
    have short : c.toNat + 32 < 2 ^ 32 := Nat.lt_of_le_of_lt (Nat.add_le_add_right last 32) (by decide)
    refine .inr ⟨first, last, ?_⟩
    change (c.val + ('a'.val - 'A'.val)).toNat = c.toNat + 32
    rw [UInt32.toNat_add]
    exact Nat.mod_eq_of_lt short
  next => exact .inl rfl

theorem le_toNat_of_toLower_ne (changes : c.toLower ≠ c) : 'a'.toNat ≤ c.toLower.toNat := by
  obtain ⟨first, -, moved⟩ := (toLower_cases c).resolve_left changes
  have small : 'a'.toNat = 'A'.toNat + 32 := by decide
  omega

theorem toLower_of_letter (first : 'a'.toNat ≤ c.toNat) : c.toLower = c := by
  unfold Char.toLower
  rw [dif_neg]
  rintro ⟨-, capital⟩
  have last : c.toNat ≤ 'Z'.toNat := capital
  exact absurd (Nat.le_trans first last) (by decide)

theorem isLow_of_toLower (ascii : c.toNat < 0x80) (small : c.toLower = c) : IsLow c := by
  rw [IsLow, lowerChar, if_pos ascii, small]

theorem IsLow.ne_sigma (low : IsLow c) : c ≠ 'Σ' := by
  rintro rfl
  exact absurd low (by decide +kernel)

theorem isLow_of_not_led (still : ∀ run ∈ ledRuns, run.covers c.toNat = false) : IsLow c := by
  have dotted := still _ List.mem_cons_self
  have runs : ∀ run ∈ lowerRuns, run.covers c.toNat = false := fun run member =>
    still run (List.mem_cons_of_mem _ member)
  by_cases ascii : c.toNat < 0x80
  · apply isLow_of_toLower ascii
    -- The capital letters of ASCII are a progression like any other.
    have letters := runs ⟨0x41, 0x5A, 1, 32⟩ List.mem_cons_self
    unfold Char.toLower
    rw [dif_neg]
    rintro ⟨first, last⟩
    have covers : LowerRun.covers ⟨0x41, 0x5A, 1, 32⟩ c.toNat = true :=
      LowerRun.covers_iff.mpr ⟨first, last, Nat.mod_one _⟩
    rw [covers] at letters
    cases letters
  · have other : c ≠ 'İ' := by
      rintro rfl
      exact absurd dotted (by decide)
    have none : lowerRuns.find? (·.covers c.toNat) = none := by
      simpa [List.find?_eq_none] using runs
    simp [IsLow, lowerChar, ascii, other, none]

/-- A lowered character is one that is left alone, a small letter of ASCII, one of the two that are
no image of a progression, or such an image. -/
theorem of_mem_lowerChar (member : d ∈ lowerChar c) :
    d = c ∧ IsLow c ∨ 'a'.toNat ≤ d.toNat ∧ d.toNat < 0x80 ∨ d = '\u0307' ∨ d = '\x00' ∨
      ∃ run ∈ lowerRuns, run.image.covers d.toNat = true := by
  unfold lowerChar at member
  split at member
  next ascii =>
    cases List.mem_singleton.mp member
    rcases toLower_cases c with same | ⟨first, last, moved⟩
    · exact .inl ⟨same, isLow_of_toLower ascii same⟩
    · have letters : 'Z'.toNat + 32 < 0x80 ∧ 'a'.toNat = 'A'.toNat + 32 := by decide
      exact .inr (.inl (by omega))
  next beyond =>
    split at member
    · rcases List.mem_cons.mp member with rfl | rest
      · exact .inr (.inl (by decide))
      · exact .inr (.inr (.inl (List.mem_singleton.mp rest)))
    next undotted =>
      split at member
      next run found =>
        have listed := List.mem_of_find?_eq_some found
        have least := le_shifted run listed
        have covered : run.covers c.toNat = true := by simpa using List.find?_some found
        have covers := LowerRun.covers_image covered (by omega)
        cases List.mem_singleton.mp member
        -- A code point that is no character is read as the null character.
        by_cases valid : (c.toNat + run.shift).toNat.isValidChar
        · refine .inr (.inr (.inr (.inr ⟨run, listed, ?_⟩)))
          rw [Char.toNat_ofNat, if_pos valid]
          exact covers
        · refine .inr (.inr (.inr (.inl ?_)))
          rw [← Char.toNat_inj, Char.toNat_ofNat, if_neg valid]
          rfl
      next none =>
        have alone : IsLow c := by simp [IsLow, lowerChar, beyond, undotted, none]
        exact .inl ⟨List.mem_singleton.mp member, alone⟩

theorem isLow_of_mem_lowerChar (member : d ∈ lowerChar c) : IsLow d := by
  rcases of_mem_lowerChar member with ⟨rfl, low⟩ | ⟨letter, ascii⟩ | rfl | rfl | ⟨run, listed, covers⟩
  · exact low
  · exact isLow_of_toLower ascii (toLower_of_letter letter)
  · decide +kernel
  · decide +kernel
  · have apart := apart_ledRuns _ (List.mem_append_left _ (List.mem_map_of_mem listed))
    exact isLow_of_not_led fun other member =>
      LowerRun.not_covers_of_apart (List.all_eq_true.mp apart other member) covers

theorem isOwn_of_isMark (mark : isMark d = true) : IsOwn d := by
  simp only [isMark, Bool.and_eq_true, decide_eq_true_eq] at mark
  have before (letter : Char) (behind : 'A'.toNat ≤ letter.toNat) : d ≠ letter := by
    rintro rfl
    omega
  refine ⟨before _ (by decide), before _ (by decide), fun c member => ?_⟩
  rcases of_mem_lowerChar member with ⟨same, -⟩ | ⟨letter, -⟩ | rfl | rfl | ⟨run, listed, covers⟩
  · exact same
  · exact absurd (Nat.lt_of_le_of_lt letter mark.2) (by decide)
  · exact absurd mark (by decide)
  · exact absurd mark (by decide)
  · have least := le_shifted run listed
    have first := (LowerRun.covers_iff.mp covers).1
    simp only [LowerRun.image] at first
    omega

theorem exists_blankRun (blank : isBlank d = true) :
    ∃ run ∈ blankRuns, run.covers d.toNat = true := by
  obtain ⟨range, listed, within⟩ := (CodeRanges.covers_iff _ _).mp blank
  exact ⟨.still range, List.mem_map_of_mem listed, LowerRun.covers_still.mpr within⟩

theorem isLow_of_isBlank (blank : isBlank d = true) : IsLow d := by
  obtain ⟨run, listed, covers⟩ := exists_blankRun blank
  have apart := apart_ledRuns run (List.mem_append_right _ listed)
  exact isLow_of_not_led fun other member =>
    LowerRun.not_covers_of_apart (List.all_eq_true.mp apart other member) covers

theorem isOwn_of_isBlank (blank : isBlank d = true) : IsOwn d := by
  have other (letter : Char) (solid : isBlank letter = false) : d ≠ letter := by
    rintro rfl
    rw [solid] at blank
    cases blank
  refine ⟨other _ (by decide), other _ (by decide), fun c member => ?_⟩
  rcases of_mem_lowerChar member with ⟨same, -⟩ | ⟨letter, ascii⟩ | rfl | rfl | ⟨run, listed, covers⟩
  · exact same
  · -- Among the letters of ASCII and behind them no range of blanks begins.
    obtain ⟨range, listed, least, greatest⟩ := (CodeRanges.covers_iff _ _).mp blank
    have outside : ∀ range ∈ blankRanges, range.2 < 'a'.toNat ∨ 0x80 ≤ range.1 := by decide
    have := outside range listed
    omega
  · exact absurd blank (by decide)
  · exact absurd blank (by decide)
  · obtain ⟨other, listed', covers'⟩ := exists_blankRun blank
    have apart := List.all_eq_true.mp (apart_blankRuns run listed) other listed'
    rw [LowerRun.not_covers_of_apart apart covers] at covers'
    cases covers'

theorem lowerChar_ne_nil (c : Char) : lowerChar c ≠ [] := by
  unfold lowerChar
  split
  · exact List.cons_ne_nil _ _
  · split
    · exact List.cons_ne_nil _ _
    · split <;> exact List.cons_ne_nil _ _

/-! ### Texts -/

/-- A text is lowered character by character. -/
theorem lowerAfter_cons (afterCased : Bool) (c : Char) (rest : List Char) :
    ∃ form later, form ≠ [] ∧ (∀ d ∈ form, IsLow d ∧ (IsOwn d → d = c)) ∧
      lowerAfter afterCased (c :: rest) = form ++ lowerAfter later rest := by
  refine ⟨_, _, ?_, ?_, lowerAfter.eq_2 afterCased c rest⟩
  · split
    · exact List.cons_ne_nil _ _
    · exact lowerChar_ne_nil c
  · intro d member
    split at member
    · -- Either form of the capital sigma is a small letter that it alone does not come from.
      cases List.mem_singleton.mp member
      split
      · exact ⟨by decide +kernel, fun own => absurd rfl own.2.1⟩
      · exact ⟨by decide +kernel, fun own => absurd rfl own.1⟩
    · exact ⟨isLow_of_mem_lowerChar member, fun own => own.2.2 c member⟩

variable {cs : List Char} {afterCased : Bool}

theorem mem_of_mem_lowerAfter (own : IsOwn d) (member : d ∈ lowerAfter afterCased cs) : d ∈ cs := by
  induction cs generalizing afterCased with
  | nil => cases member
  | cons c rest ih =>
    obtain ⟨form, later, -, each, eq⟩ := lowerAfter_cons afterCased c rest
    rw [eq] at member
    rcases List.mem_append.mp member with first | others
    · exact (each d first).2 own ▸ List.mem_cons_self
    · exact List.mem_cons_of_mem _ (ih others)

theorem head?_of_head?_lowerAfter (own : IsOwn d)
    (first : (lowerAfter afterCased cs).head? = some d) : cs.head? = some d := by
  cases cs with
  | nil => cases first
  | cons c rest =>
    obtain ⟨form, later, filled, each, eq⟩ := lowerAfter_cons afterCased c rest
    rw [eq, List.head?_append_of_ne_nil _ filled] at first
    rw [(each d (List.mem_of_head? first)).2 own]
    rfl

theorem head?_lowerAfter (low : IsLow d) (first : cs.head? = some d) :
    (lowerAfter afterCased cs).head? = some d := by
  obtain ⟨rest, rfl⟩ := List.head?_eq_some_iff.mp first
  rw [lowerAfter, if_neg low.ne_sigma, low]
  rfl

theorem lowerAfter_ne_nil (filled : cs ≠ []) : lowerAfter afterCased cs ≠ [] := by
  obtain ⟨c, rest, rfl⟩ := List.exists_cons_of_ne_nil filled
  obtain ⟨form, later, filled', -, eq⟩ := lowerAfter_cons afterCased c rest
  rw [eq]
  exact List.append_ne_nil_of_left_ne_nil filled' _

theorem getLast?_of_getLast?_lowerAfter (own : IsOwn d)
    (last : (lowerAfter afterCased cs).getLast? = some d) : cs.getLast? = some d := by
  induction cs generalizing afterCased with
  | nil => cases last
  | cons c rest ih =>
    obtain ⟨form, later, -, each, eq⟩ := lowerAfter_cons afterCased c rest
    rw [eq] at last
    -- The last character comes from the first one only if that is alone.
    cases rest with
    | nil =>
      have alone : form.getLast? = some d := by simpa [lowerAfter] using last
      rw [(each d (List.mem_of_getLast? alone)).2 own]
      rfl
    | cons next others =>
      have more : lowerAfter later (next :: others) ≠ [] := lowerAfter_ne_nil (List.cons_ne_nil _ _)
      rw [List.getLast?_append_of_ne_nil _ more] at last
      rw [List.getLast?_cons_cons]
      exact ih last

/-- A text of characters that are left alone stays as it is. -/
theorem lowerAfter_of_isLow (low : ∀ c ∈ cs, IsLow c) : lowerAfter afterCased cs = cs := by
  induction cs generalizing afterCased with
  | nil => rfl
  | cons c rest ih =>
    obtain ⟨first, others⟩ := List.forall_mem_cons.mp low
    unfold lowerAfter
    rw [if_neg first.ne_sigma, first, ih others]
    rfl

/-- A text in ASCII without capital letters stays as it is. -/
theorem lowerAfter_eq_self (small : ∀ c ∈ cs, c.toNat < 0x80 ∧ c.toLower = c) :
    lowerAfter afterCased cs = cs :=
  lowerAfter_of_isLow fun c member => isLow_of_toLower (small c member).1 (small c member).2

theorem isLow_of_mem_lowerAfter (member : d ∈ lowerAfter afterCased cs) : IsLow d := by
  induction cs generalizing afterCased with
  | nil => cases member
  | cons c rest ih =>
    obtain ⟨form, later, -, each, eq⟩ := lowerAfter_cons afterCased c rest
    rw [eq] at member
    rcases List.mem_append.mp member with first | others
    · exact (each d first).1
    · exact ih others

/-- Lowering a second time changes nothing. -/
theorem lowerAfter_lowerAfter (again : Bool) :
    lowerAfter again (lowerAfter afterCased cs) = lowerAfter afterCased cs :=
  lowerAfter_of_isLow fun _ => isLow_of_mem_lowerAfter

end DomainScout.Text
