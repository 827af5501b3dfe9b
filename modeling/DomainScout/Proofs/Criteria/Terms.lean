import DomainScout.Proofs.Criteria.Rereading
import DomainScout.Proofs.Text.Part

/-!
# Lists of terms

Terms come in two ways, all in one text or as a list of scalars. Of a text the terms are the maximal runs
between commas and blanks; the trimming that comes first takes away only what separates anyway. The items
of a list are trimmed and otherwise kept as they are, commas and blanks inside included. What comes out
goes in again as a list, and nothing is left to be trimmed.

Main statement: `terms_exact`.
-/
namespace DomainScout.Criteria

open Text

variable {v : Value} {s : String} {terms : List String}

/-! ### Scalars with a text -/

/-- The text of a scalar as it is, before it is trimmed. An integer with too many digits has none. -/
def written? : Value → Option String
  | .bool b => some (if b then "true" else "false")
  | .int n => if isWritable n then some (toString n) else none
  | .real x => some x.text
  | .text s => some s
  | .ragged glyphs => some glyphs.shown
  | .null | .list _ | .object _ => none

theorem textOf_of_written? (writes : written? v = some s) : textOf v = .ok (nonBlank? s) := by
  cases v with
  | null | list | object => cases writes
  | bool b =>
    cases writes
    cases b <;> decide +kernel
  | int n =>
    rw [written?] at writes
    split at writes
    next writable =>
      cases writes
      rw [textOf, if_pos writable]
      rfl
    · cases writes
  | real | text | ragged =>
    cases writes
    rfl

theorem splitTerms_trim (s : String) : splitTerms (trim s) = splitTerms s := by
  have separates (c : Char) (blank : isBlank c = true) : separatesTerms c = true := by
    simp [separatesTerms, blank]
  rw [splitTerms, trim, String.toList_ofList, runs_trimBoth separates]
  rfl

theorem termsOf_of_written? (writes : written? v = some s) : termsOf v = .ok (splitTerms s) := by
  have single : ∀ items, v ≠ .list items := by
    rintro items rfl
    cases writes
  rw [termsOf.eq_2 v single, textOf_of_written? writes, ← splitTerms_trim, nonBlank?]
  -- A blank text has no terms, just as the empty text has none.
  by_cases blank : trim s = ""
  · simp only [blank, if_true]
    rfl
  · simp only [blank, if_false]
    rfl

theorem splitTerms_eq_iff :
    splitTerms s = terms ↔ Spells separatesTerms (terms.map String.toList) s.toList := by
  rw [← runs_eq_iff, splitTerms]
  constructor
  · rintro rfl
    simp [Function.comp_def]
  · intro split
    simp [split, Function.comp_def]

/-! ### Terms that are put together -/

/-- A term is not empty and holds neither commas nor blanks. -/
def IsTerm (term : String) : Prop := term ≠ "" ∧ ∀ c ∈ term.toList, separatesTerms c = false

instance (term : String) : Decidable (IsTerm term) :=
  decidable_of_iff (term ≠ "" ∧ term.toList.any separatesTerms = false) (by simp [IsTerm])

/-- Terms are put together with a gap between any two of them, each gap of its own. -/
inductive Joined : List String → String → Prop where
  | nothing : Joined [] ""
  | one (term : String) : Joined [term] term
  | more {term gap next text : String} {others : List String} (filled : gap ≠ "")
      (separates : ∀ c ∈ gap.toList, separatesTerms c = true) (joined : Joined (next :: others) text) :
      Joined (term :: next :: others) (term ++ (gap ++ text))

theorem Joined.spells (joined : Joined terms s) (each : ∀ term ∈ terms, IsTerm term) :
    Spells separatesTerms (terms.map String.toList) s.toList := by
  induction joined with
  | nothing => exact .gap nofun
  | one term =>
    obtain ⟨filled, solid⟩ := each term List.mem_cons_self
    have nothing : Spells separatesTerms [] [] := .gap nofun
    simpa using nothing.cons (by simpa using filled) solid (by simp)
  | @more term gap next text others filled separates _ ih =>
    rw [List.forall_mem_cons] at each
    obtain ⟨⟨own, solid⟩, rest⟩ := each
    rw [String.toList_append, String.toList_append]
    refine ((ih rest).led separates).cons (by simpa using own) solid ?_
    intro c first
    rw [List.head?_append_of_ne_nil _ (by simpa using filled)] at first
    exact separates c (List.mem_of_mem_head? first)

/-! ### Lists of scalars -/

/-- What a list holds that is neither a list nor an object, nor an integer with too many digits. -/
def Listable (item : Value) : Prop := item = .null ∨ ∃ s, written? item = some s

theorem filterMap_nonBlank? (texts : List String) :
    texts.filterMap nonBlank? = (texts.map trim).filter (· ≠ "") := by
  induction texts with
  | nil => rfl
  | cons s rest ih =>
    by_cases blank : trim s = ""
    · simpa [nonBlank?, blank] using ih
    · simpa [nonBlank?, blank] using ih

theorem termsOf_listable {items : List Value} (each : ∀ item ∈ items, Listable item) :
    termsOf (.list items) = .ok (((items.filterMap written?).map trim).filter (· ≠ "")) := by
  have texts : items.mapM textOf = .ok (items.map fun item => (written? item).bind nonBlank?) := by
    apply mapM_eq_ok
    intro item member
    rcases each item member with rfl | ⟨s, writes⟩
    · rfl
    · rw [textOf_of_written? writes, writes]
      rfl
  rw [← filterMap_nonBlank?, List.filterMap_filterMap, termsOf, texts]
  simp [bind, Except.bind, pure, Except.pure, List.filterMap_map]

/-! ### Exactly the terms -/

/-- The terms of a scalar are the maximal runs of its text that hold neither commas nor blanks, in order;
terms that are put together come apart again as they were; the terms of a list are the trimmed texts of its
items, those left out that are missing or blank; and terms that were read are read again as themselves. -/
theorem terms_exact (v : Value) :
    (∀ s, written? v = some s →
      ∃ terms, termsOf v = .ok terms ∧
        ∀ others, Spells separatesTerms (others.map String.toList) s.toList ↔ others = terms) ∧
    (∀ s terms, written? v = some s → (∀ term ∈ terms, IsTerm term) → Joined terms s →
      termsOf v = .ok terms) ∧
    (∀ items, v = .list items → (∀ item ∈ items, Listable item) →
      termsOf v = .ok (((items.filterMap written?).map trim).filter (· ≠ ""))) ∧
    ∀ terms, termsOf v = .ok terms → termsOf (.list (terms.map .text)) = .ok terms := by
  refine ⟨?_, ?_, ?_, ?_⟩
  · intro s writes
    refine ⟨splitTerms s, termsOf_of_written? writes, fun others => ?_⟩
    rw [← splitTerms_eq_iff, eq_comm]
  · intro s terms writes each joined
    rw [termsOf_of_written? writes, splitTerms_eq_iff.mpr (joined.spells each)]
  · rintro items rfl each
    exact termsOf_listable each
  · intro terms reads
    exact termsOf_list (settled_of_termsOf reads)

theorem terms_exact_either_way :
    (∃ terms, termsOf (.text "\tcom,,net ") = .ok terms ∧
      ∀ others, Spells separatesTerms (others.map String.toList) "\tcom,,net ".toList ↔ others = terms) ∧
    termsOf (.text "com, net  org") = .ok ["com", "net", "org"] ∧
    termsOf (.list [.text " com", .null, .text " ", .int 7, .bool true, .text "a, b"]) =
      .ok ["com", "7", "true", "a, b"] ∧
    termsOf (.list [.text "com", .text "7", .text "true", .text "a, b"]) =
      .ok ["com", "7", "true", "a, b"] := by
  have joined : Joined ["com", "net", "org"] "com, net  org" := by
    have parts : "com, net  org" = "com" ++ (", " ++ ("net" ++ ("  " ++ "org"))) := by decide +kernel
    rw [parts]
    have gap : ∀ gap ∈ [", ", "  "], ∀ c ∈ gap.toList, separatesTerms c = true := by
      simp only [← List.all_eq_true]
      decide +kernel
    exact .more (by decide) (gap _ (by simp)) (.more (by decide) (gap _ (by simp)) (.one "org"))
  have each : ∀ item ∈ [Value.text " com", .null, .text " ", .int 7, .bool true, .text "a, b"],
      Listable item := by
    simp only [List.forall_mem_cons]
    exact ⟨.inr ⟨_, rfl⟩, .inl rfl, .inr ⟨_, rfl⟩, .inr ⟨"7", by decide +kernel⟩, .inr ⟨_, rfl⟩,
      .inr ⟨_, rfl⟩, nofun⟩
  have listed := ((terms_exact _).2.2.1 _ rfl each).trans
    (congrArg Except.ok (by decide +kernel : _ = ["com", "7", "true", "a, b"]))
  refine ⟨(terms_exact _).1 _ rfl, ?_, listed, (terms_exact _).2.2.2 _ listed⟩
  exact (terms_exact _).2.1 _ _ rfl (by decide +kernel) joined

end DomainScout.Criteria
