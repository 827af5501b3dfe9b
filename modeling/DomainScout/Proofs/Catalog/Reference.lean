import DomainScout.Catalog.Table
import DomainScout.Proofs.Text.Part

/-!
# References to tables

A reference is cut at its dots, and what is left of the pieces without the blanks around them are its
names. One name is a table in the default schema, two are a schema and a table, and any other number
stands for the fallback table. A table that was read has a reference that every reader reads as that
table, whatever the default schema is.

Main statement: `parse_inverts`.
-/
namespace DomainScout.TableRef

open Text

/-- A name that a reference can spell: it is not empty, and has no blanks around it and no dot in it. -/
structure IsName (name : String) : Prop where
  filled : name ≠ ""
  trimmed : trim name = name
  undotted : '.' ∉ name.toList

/-- The schema and the table are names. -/
structure IsNamed (ref : TableRef) : Prop where
  schema : IsName ref.schema
  table : IsName ref.table

/-- The text is a name with blanks around it. -/
def Padded (name text : String) : Prop :=
  ∃ before after : String, (∀ c ∈ before.toList, isBlank c = true) ∧
    (∀ c ∈ after.toList, isBlank c = true) ∧ text = before ++ name ++ after

/-- The pieces between the dots of a text that hold more than blanks. -/
def solidPieces (ref : String) : List (List Char) :=
  (ref.toList.splitOn '.').filter fun piece => piece.any fun c => !isBlank c

/-- What is left of pieces without the blanks around them, if anything is. -/
def namesOf (pieces : List (List Char)) : List String :=
  ((pieces.map (trimBoth isBlank)).filter fun piece => !piece.isEmpty).map String.ofList

/-! ### The parts of a reference -/

theorem namesOf_cons (piece : List Char) (more : List (List Char)) :
    namesOf (piece :: more) = namesOf [piece] ++ namesOf more := by
  simp only [namesOf, ← List.map_append, ← List.filter_append, List.map_cons, List.map_nil,
    List.cons_append, List.nil_append]

section Blanks

variable {before after cs : List Char} (left : ∀ c ∈ before, isBlank c = true)
  (right : ∀ c ∈ after, isBlank c = true)
include left right

theorem namesOf_pad : namesOf [before ++ cs ++ after] = namesOf [cs] := by
  simp only [namesOf, List.map_cons, List.map_nil, trimBoth_pad left right]

theorem dot_notMem_pad (undotted : '.' ∉ cs) : '.' ∉ before ++ cs ++ after := by
  have solid : isBlank '.' ≠ true := by decide
  intro member
  rcases List.mem_append.mp member with inFront | inAfter
  · rcases List.mem_append.mp inFront with inBefore | inside
    · exact solid (left _ inBefore)
    · exact undotted inside
  · exact solid (right _ inAfter)

/-- Blanks around a text go to its first and to its last piece, which are trimmed anyway. -/
theorem namesOf_splitOn_pad (cs : List Char) :
    namesOf ((before ++ cs ++ after).splitOn '.') = namesOf (cs.splitOn '.') := by
  induction cs using pieces_induction (c := '.') generalizing before with
  | one piece undotted =>
    rw [List.splitOn_eq_singleton (dot_notMem_pad left right undotted),
      List.splitOn_eq_singleton undotted, namesOf_pad left right]
  | more piece rest undotted ih =>
    -- The first piece takes the blanks in front, so that the rest has only those behind it.
    have nothing : ∀ c ∈ ([] : List Char), isBlank c = true := nofun
    have inFront : '.' ∉ before ++ piece := by
      simpa using dot_notMem_pad left nothing undotted
    have first : namesOf [before ++ piece] = namesOf [piece] := by
      simpa using namesOf_pad left nothing
    have regrouped : before ++ (piece ++ '.' :: rest) ++ after =
        (before ++ piece) ++ '.' :: ([] ++ rest ++ after) := by simp
    rw [regrouped, List.splitOn_append_cons_self_of_not_mem inFront, namesOf_cons, first, ih nothing,
      List.splitOn_append_cons_self_of_not_mem undotted, ← namesOf_cons]

end Blanks

/-- Trimming the whole reference first makes no difference: its pieces are trimmed all the same. -/
theorem parts_eq (ref : String) : parts ref = namesOf (ref.toList.splitOn '.') := by
  obtain ⟨before, after, whole, left, right⟩ := exists_padding isBlank ref.toList
  calc parts ref = namesOf ((trimBoth isBlank ref.toList).splitOn '.') := by
        rw [List.splitOn_eq_splitOnP, ← pieces_eq_splitOnP]
        rfl
    _ = namesOf ((before ++ trimBoth isBlank ref.toList ++ after).splitOn '.') :=
        (namesOf_splitOn_pad left right _).symm
    _ = namesOf (ref.toList.splitOn '.') := by rw [List.append_assoc, ← whole]

theorem isName_of_mem_parts {ref name : String} (member : name ∈ parts ref) : IsName name := by
  rw [parts_eq, namesOf] at member
  obtain ⟨trimmed, kept, rfl⟩ := List.mem_map.mp member
  obtain ⟨fromPiece, filled⟩ := List.mem_filter.mp kept
  obtain ⟨piece, inRef, rfl⟩ := List.mem_map.mp fromPiece
  constructor
  · simpa [String.ext_iff] using filled
  · rw [trim, String.toList_ofList, trimBoth_trimBoth]
  · rw [String.toList_ofList]
    exact fun dotted => notMem_of_mem_splitOn inRef (mem_of_mem_trimBoth dotted)

/-- There are as many names as there are pieces that hold more than blanks. -/
theorem length_parts (ref : String) : (parts ref).length = (solidPieces ref).length := by
  have solid (piece : List Char) :
      (!(trimBoth isBlank piece).isEmpty) = piece.any fun c => !isBlank c := by
    rw [Bool.eq_iff_iff]
    simp [trimBoth_eq_nil_iff]
  rw [parts_eq, namesOf, List.length_map, List.filter_map, List.length_map, solidPieces]
  exact congrArg List.length (List.filter_congr fun piece _ => solid piece)

/-! ### Reading -/

section Reading

variable {schema table text left right defaultSchema : String}

theorem IsName.trimBoth_eq (named : IsName table) :
    trimBoth isBlank table.toList = table.toList := by
  have trimmed := congrArg String.toList named.trimmed
  rwa [trim, String.toList_ofList] at trimmed

theorem namesOf_of_padded (named : IsName table) (padded : Padded table text) :
    namesOf [text.toList] = [table] := by
  obtain ⟨before, after, left, right, rfl⟩ := padded
  have filled : table.toList ≠ [] := fun nothing => named.filled (String.toList_inj.mp nothing)
  rw [String.toList_append, String.toList_append, namesOf_pad left right]
  simp [namesOf, named.trimBoth_eq, filled]

theorem dot_notMem_of_padded (named : IsName table) (padded : Padded table text) :
    '.' ∉ text.toList := by
  obtain ⟨before, after, left, right, rfl⟩ := padded
  rw [String.toList_append, String.toList_append]
  exact dot_notMem_pad left right named.undotted

theorem parts_of_padded (named : IsName table) (padded : Padded table text) :
    parts text = [table] := by
  rw [parts_eq, List.splitOn_eq_singleton (dot_notMem_of_padded named padded),
    namesOf_of_padded named padded]

theorem parts_joined (named : IsName schema) (padded : Padded schema left) (right : String) :
    parts (left ++ "." ++ right) = schema :: parts right := by
  have spelled : (left ++ "." ++ right).toList = left.toList ++ '.' :: right.toList := by simp
  rw [parts_eq, spelled,
    List.splitOn_append_cons_self_of_not_mem (dot_notMem_of_padded named padded), namesOf_cons,
    namesOf_of_padded named padded, ← parts_eq, List.singleton_append]

theorem padded_self (name : String) : Padded name name :=
  ⟨"", "", nofun, nofun, by simp⟩

theorem parse_of_padded (named : IsName table) (padded : Padded table text) :
    parse text defaultSchema = ⟨defaultSchema, table⟩ := by
  rw [parse, parts_of_padded named padded]

theorem parse_joined (schemaNamed : IsName schema) (tableNamed : IsName table)
    (inFront : Padded schema left) (behind : Padded table right) :
    parse (left ++ "." ++ right) defaultSchema = ⟨schema, table⟩ := by
  rw [parse, parts_joined schemaNamed inFront, parts_of_padded tableNamed behind]

theorem IsNamed.parse_qualified {ref : TableRef} (named : ref.IsNamed) (defaultSchema : String) :
    parse ref.qualified defaultSchema = ref :=
  parse_joined named.schema named.table (padded_self _) (padded_self _)

/-- Whatever the text is, the table that is read has names. -/
theorem isNamed_parse (named : IsName defaultSchema) (ref : String) :
    (parse ref defaultSchema).IsNamed := by
  have names := @isName_of_mem_parts ref
  unfold parse
  split
  next table single =>
    rw [single] at names
    exact ⟨named, names List.mem_cons_self⟩
  next schema table both =>
    rw [both] at names
    exact ⟨names List.mem_cons_self, names (.tail _ List.mem_cons_self)⟩
  · have fallback : IsName fallbackTable := ⟨by decide, by decide +kernel, by decide⟩
    exact ⟨named, fallback⟩

theorem parse_of_solidPieces {ref : String}
    (count : (solidPieces ref).length = 0 ∨ 2 < (solidPieces ref).length) :
    parse ref defaultSchema = ⟨defaultSchema, fallbackTable⟩ := by
  rw [← length_parts] at count
  unfold parse
  split
  next table single => simp [single] at count
  next schema table both => simp [both] at count
  · rfl

end Reading

/-- Where the default schema is a name, every text is read as a table with names, and every reader
reads the qualified form of that table as the same table. A name, also with blanks around it, is read
as a table in the default schema, and two names with a dot between them as a schema and a table. A
text with no or with more than two pieces that hold more than blanks is read as the fallback table. -/
theorem parse_inverts (defaultSchema : String) :
    (IsName defaultSchema → ∀ ref, (parse ref defaultSchema).IsNamed ∧
      ∀ other, parse (parse ref defaultSchema).qualified other = parse ref defaultSchema) ∧
    (∀ table text, IsName table → Padded table text →
      parse text defaultSchema = ⟨defaultSchema, table⟩) ∧
    (∀ schema table left right, IsName schema → IsName table → Padded schema left →
      Padded table right → parse (left ++ "." ++ right) defaultSchema = ⟨schema, table⟩) ∧
    (∀ ref, (solidPieces ref).length = 0 ∨ 2 < (solidPieces ref).length →
      parse ref defaultSchema = ⟨defaultSchema, fallbackTable⟩) := by
  refine ⟨?_, ?_, ?_, ?_⟩
  · intro defaultNamed ref
    have named := isNamed_parse defaultNamed ref
    exact ⟨named, named.parse_qualified⟩
  · intro table text named padded
    exact parse_of_padded named padded
  · intro schema table left right schemaNamed tableNamed inFront behind
    exact parse_joined schemaNamed tableNamed inFront behind
  · intro ref count
    exact parse_of_solidPieces count

/-- With the default schema `main`: a reference with blanks and an empty piece in front, a name and two
names with blanks around them, and three pieces. -/
theorem parse_inverts_main :
    IsName "main" ∧ parse (parse ".sales. domains" "main").qualified "other" = ⟨"sales", "domains"⟩ ∧
    IsName "sales" ∧ Padded "sales" "\tsales " ∧ parse "\tsales " "main" = ⟨"main", "sales"⟩ ∧
    IsName "old domains" ∧ Padded "old domains" " old domains\n" ∧
    parse ("\tsales " ++ "." ++ " old domains\n") "main" = ⟨"sales", "old domains"⟩ ∧
    2 < (solidPieces "main.sales.domains").length ∧
    parse "main.sales.domains" "main" = ⟨"main", fallbackTable⟩ := by
  have main : IsName "main" := ⟨by decide, by decide +kernel, by decide⟩
  have sales : IsName "sales" := ⟨by decide, by decide +kernel, by decide⟩
  have domains : IsName "old domains" := ⟨by decide, by decide +kernel, by decide⟩
  have blank {s : String} (all : s.toList.all isBlank = true) : ∀ c ∈ s.toList, isBlank c = true :=
    List.all_eq_true.mp all
  have inFront : Padded "sales" "\tsales " :=
    ⟨"\t", " ", blank (by decide +kernel), blank (by decide +kernel), by decide⟩
  have behind : Padded "old domains" " old domains\n" :=
    ⟨" ", "\n", blank (by decide +kernel), blank (by decide +kernel), by decide⟩
  have count : 2 < (solidPieces "main.sales.domains").length := by decide +kernel
  obtain ⟨again, single, both, fallback⟩ := parse_inverts "main"
  have read : parse ".sales. domains" "main" = ⟨"sales", "domains"⟩ := by decide +kernel
  exact ⟨main, ((again main ".sales. domains").2 "other").trans read, sales, inFront,
    single "sales" "\tsales " sales inFront, domains, behind,
    both "sales" "old domains" "\tsales " " old domains\n" sales domains inFront behind, count,
    fallback "main.sales.domains" (.inr count)⟩

end DomainScout.TableRef
