import DomainScout.Proofs.Text.Trim
import DomainScout.Text.Part

/-!
# Pieces and maximal runs

The pieces of a text are cut at every separator, as the standard library splits a list. Its runs are
what stands between separators, as far as it reaches. A grammar says how runs and gaps make up a text; a
text has just one reading by it, which is the one that is computed.

Main statements: `pieces_eq_splitOnP`, `runs_eq_iff`.
-/
namespace DomainScout.Text

variable {separator : Char → Bool} {c : Char} {cs gap term rest : List Char} {terms : List (List Char)}

/-- A text consists of terms with gaps around them. A term reaches as far as it can: it is followed by a
separator or by nothing. -/
inductive Spells (separator : Char → Bool) : List (List Char) → List Char → Prop where
  | gap {gap : List Char} (separates : ∀ c ∈ gap, separator c = true) : Spells separator [] gap
  | term {gap term rest : List Char} {terms : List (List Char)}
      (separates : ∀ c ∈ gap, separator c = true) (filled : term ≠ [])
      (solid : ∀ c ∈ term, separator c = false) (ends : ∀ c ∈ rest.head?, separator c = true)
      (others : Spells separator terms rest) : Spells separator (term :: terms) (gap ++ (term ++ rest))

/-! ### Pieces -/

theorem pieces_eq_splitOnP (cs : List Char) : pieces separator cs = cs.splitOnP separator := by
  induction cs with
  | nil => rfl
  | cons c rest ih =>
    obtain ⟨piece, more, split⟩ := List.exists_cons_of_ne_nil (List.splitOnP_ne_nil separator rest)
    rw [List.splitOnP_cons_eq_if_modifyHead, pieces, ih, split, List.modifyHead_cons]

/-- A text is one piece, or a piece that is followed by a separator and by the rest of the text. -/
theorem pieces_induction {motive : List Char → Prop} (one : ∀ piece, c ∉ piece → motive piece)
    (more : ∀ piece rest, c ∉ piece → motive rest → motive (piece ++ c :: rest)) (cs : List Char) :
    motive cs := by
  by_cases member : c ∈ cs
  · obtain ⟨piece, rest, rfl, solid⟩ := List.eq_append_cons_of_mem member
    exact more piece rest solid (pieces_induction one more rest)
  · exact one cs member
termination_by cs.length

theorem notMem_of_mem_splitOn {piece : List Char} (member : piece ∈ cs.splitOn c) : c ∉ piece := by
  induction cs using pieces_induction (c := c) with
  | one whole solid =>
    rw [List.splitOn_eq_singleton solid, List.mem_singleton] at member
    rwa [member]
  | more first rest solid ih =>
    rw [List.splitOn_append_cons_self_of_not_mem solid, List.mem_cons] at member
    rcases member with rfl | inRest
    · exact solid
    · exact ih inRest

/-! ### The runs are the terms -/

theorem runs_cons (separates : separator c = true) : runs separator (c :: cs) = runs separator cs := by
  simp [runs, pieces, separates]

theorem runs_append (separates : ∀ c ∈ gap, separator c = true) :
    runs separator (gap ++ cs) = runs separator cs := by
  induction gap with
  | nil => rfl
  | cons c gap ih =>
    rw [List.forall_mem_cons] at separates
    rw [List.cons_append, runs_cons separates.1, ih separates.2]

/-- Characters that do not separate go in front of the first piece. -/
theorem pieces_append {piece : List Char} {more : List (List Char)}
    (solid : ∀ c ∈ term, separator c = false) (split : pieces separator cs = piece :: more) :
    pieces separator (term ++ cs) = (term ++ piece) :: more := by
  induction term with
  | nil => exact split
  | cons c term ih =>
    rw [List.forall_mem_cons] at solid
    simp [pieces, solid.1, ih solid.2]

theorem runs_term (filled : term ≠ []) (solid : ∀ c ∈ term, separator c = false)
    (ends : ∀ c ∈ rest.head?, separator c = true) :
    runs separator (term ++ rest) = term :: runs separator rest := by
  -- The rest begins with an empty piece, so that the term is a piece of its own.
  obtain ⟨more, split⟩ : ∃ more, pieces separator rest = [] :: more := by
    cases rest with
    | nil => exact ⟨[], rfl⟩
    | cons c rest => exact ⟨pieces separator rest, by simp [pieces, ends c rfl]⟩
  simp [runs, pieces_append solid split, split, filled]

theorem Spells.runs_eq (spells : Spells separator terms cs) : runs separator cs = terms := by
  induction spells with
  | gap separates => simpa [runs, pieces] using @runs_append separator [] _ separates
  | term separates filled solid ends _ ih => rw [runs_append separates, runs_term filled solid ends, ih]

/-! ### Every text consists of terms -/

/-- Separators in front of a text make no difference. -/
theorem Spells.led {pad : List Char} (padding : ∀ c ∈ pad, separator c = true)
    (spells : Spells separator terms cs) : Spells separator terms (pad ++ cs) := by
  cases spells with
  | gap all => exact .gap (List.forall_mem_append.mpr ⟨padding, all⟩)
  | term all filled solid ends others =>
    rw [← List.append_assoc]
    exact .term (List.forall_mem_append.mpr ⟨padding, all⟩) filled solid ends others

/-- A text may begin with a term right away. -/
theorem Spells.cons (filled : term ≠ []) (solid : ∀ c ∈ term, separator c = false)
    (ends : ∀ c ∈ rest.head?, separator c = true) (others : Spells separator terms rest) :
    Spells separator (term :: terms) (term ++ rest) := by
  have unled : ∀ c ∈ ([] : List Char), separator c = true := nofun
  exact .term unled filled solid ends others

/-- A character that does not separate begins a term, either one of its own or the one it is next to. -/
theorem Spells.exists_cons (solid : separator c = false) (spells : Spells separator terms cs) :
    ∃ terms, Spells separator terms (c :: cs) := by
  have alone : ∀ d ∈ [c], separator d = false := by simpa using solid
  have own (ends : ∀ d ∈ cs.head?, separator d = true) : ∃ terms, Spells separator terms (c :: cs) :=
    ⟨[c] :: terms, .cons (by simp) alone ends spells⟩
  cases spells with
  | gap all => exact own fun d first => all d (List.mem_of_mem_head? first)
  | @term gap term rest terms all filled inside ends others =>
    cases gap with
    | nil =>
      refine ⟨(c :: term) :: terms, .cons (by simp) ?_ ends others⟩
      exact List.forall_mem_cons.mpr ⟨solid, inside⟩
    | cons d gap =>
      apply own
      rintro e ⟨⟩
      exact all _ List.mem_cons_self

theorem exists_spells (separator : Char → Bool) (cs : List Char) : ∃ terms, Spells separator terms cs := by
  induction cs with
  | nil => exact ⟨[], .gap nofun⟩
  | cons c rest ih =>
    obtain ⟨terms, spells⟩ := ih
    cases kind : separator c with
    | true =>
      have alone : ∀ d ∈ [c], separator d = true := by simpa using kind
      exact ⟨terms, spells.led alone⟩
    | false => exact spells.exists_cons kind

theorem runs_eq_iff : runs separator cs = terms ↔ Spells separator terms cs := by
  constructor
  · rintro rfl
    obtain ⟨terms, spells⟩ := exists_spells separator cs
    rwa [spells.runs_eq]
  · exact Spells.runs_eq

/-! ### Padding -/

/-- Separators behind a text make no difference either. -/
theorem Spells.padded {pad : List Char} (padding : ∀ c ∈ pad, separator c = true)
    (spells : Spells separator terms cs) : Spells separator terms (cs ++ pad) := by
  induction spells with
  | gap separates => exact .gap (List.forall_mem_append.mpr ⟨separates, padding⟩)
  | @term gap term rest terms separates filled solid ends _ ih =>
    rw [List.append_assoc, List.append_assoc]
    refine .term separates filled solid ?_ ih
    intro c first
    rw [List.head?_append, Option.mem_def, Option.or_eq_some_iff] at first
    rcases first with own | ⟨_, next⟩
    · exact ends c own
    · exact padding c (List.mem_of_mem_head? next)

/-- What is trimmed off a text separates, so that the runs stay. -/
theorem runs_trimBoth {p : Char → Bool} (separates : ∀ c, p c = true → separator c = true)
    (cs : List Char) : runs separator (trimBoth p cs) = runs separator cs := by
  obtain ⟨before, after, whole, left, right⟩ := exists_padding p cs
  have inner := runs_eq_iff.mp (rfl : runs separator (trimBoth p cs) = _)
  conv_rhs => rw [whole, runs_append fun c member => separates c (left c member)]
  exact (inner.padded fun c member => separates c (right c member)).runs_eq.symm

end DomainScout.Text
