import DomainScout.Proofs.Catalog.Resolution
import DomainScout.Query.Projection
import DomainScout.Store.Pool

/-!
# What a search selects

One column may be selected several times: for more than one role, and under its fixed name besides.
A table may have columns whose names differ in case only. Still no value is lost when a row is read
by name, because each selected column fills a place of its own, and the name that it gets belongs to
the place.

Main statement: `Query.lossless`.
-/
namespace DomainScout

open Text

/-! ### Rows by name -/

namespace Value

variable {name : FieldName} {v : Value} {fields pairs : Fields}

theorem put_of_notMem (fresh : name ∉ fields.map Prod.fst) : put name v fields = fields ++ [(name, v)] := by
  induction fields with
  | nil => rfl
  | cons first rest ih =>
    rw [List.map_cons, List.mem_cons, not_or] at fresh
    rw [put, if_neg fun same => fresh.1 same.symm, ih fresh.2, List.cons_append]

theorem ofPairs_eq_self (distinct : (pairs.map Prod.fst).Nodup) : ofPairs pairs = pairs := by
  -- Pairs go in one by one: what is in already stays in front, and no name that is to come is in it.
  have onward (sofar : Fields) (apart : ((sofar ++ pairs).map Prod.fst).Nodup) :
      pairs.foldl (fun fields pair => put pair.1 pair.2 fields) sofar = sofar ++ pairs := by
    clear distinct
    induction pairs generalizing sofar with
    | nil => simp
    | cons pair rest ih =>
      have fresh : pair.1 ∉ sofar.map Prod.fst := by
        rw [List.map_append, List.nodup_append] at apart
        exact fun old => apart.2.2 _ old _ (by simp) rfl
      rw [List.foldl_cons, put_of_notMem fresh]
      simpa using ih (sofar ++ [pair]) (by simpa using apart)
  exact onward [] distinct

end Value

theorem Pool.rowOf_eq_zip {columns : List String} {values : List Value} (distinct : columns.Nodup)
    (matched : values.length = columns.length) :
    rowOf columns values = (columns.map .plain).zip values := by
  apply Value.ofPairs_eq_self
  rw [List.map_fst_zip (by simp [matched])]
  exact distinct.map fun _ _ => FieldName.plain.inj

namespace Query

/-! ### Places -/

/-- What a search selects a column for. -/
inductive Place where
  /-- To play a role, under a name of the role's own. -/
  | role (role : Role) (output : String)
  /-- For the sake of its name. -/
  | fixed (name : String)
  deriving DecidableEq

namespace Place

/-- The name that belongs to the place. -/
def output : Place → String
  | role _ output => output
  | fixed name => name

def role? : Place → Option Role
  | role r _ => some r
  | fixed _ => none

/-- The places in order: roles, fixed names, counters. -/
def all : List Place :=
  leadingRoles.map (fun (r, output) => role r output) ++ fixedColumns.map fixed
    ++ counterRoles.map (fun (r, output) => role r output)

theorem nodup_outputs : (all.map fun place => lower place.output).Nodup := by decide +kernel

theorem count_role (r : Role) : (all.filterMap role?).count r = 1 := by
  cases r <;> decide +kernel

/-- The column that is selected for a place, if there is one. -/
def selected? (roles : RoleMap) (catalog : Catalog) : Place → Option Selected
  | role r output => (roles.column? r).map fun column => ⟨column, some output⟩
  | fixed name => (catalog.column? name).map fun column => ⟨column.name, none⟩

end Place

/-- A selected column is the right one for a place. -/
inductive Fills (roles : RoleMap) (catalog : Catalog) : Place → Selected → Prop where
  /-- A role is set, to the name of a column that is not empty. -/
  | role {r : Role} {output column : String} (set : roles.given r = some column) (filled : column ≠ "") :
      Fills roles catalog (.role r output) ⟨column, some output⟩
  /-- The first column of the name, in whatever case, is selected as the table spells it. -/
  | fixed {name : String} {place : Nat} {column : Column}
      (first : catalog.IsFirst (fun other => lower other.name = lower name) place column) :
      Fills roles catalog (.fixed name) ⟨column.name, none⟩

variable {roles : RoleMap} {catalog : Catalog} {place : Place} {selected : Selected}

theorem selected?_eq_some_iff :
    place.selected? roles catalog = some selected ↔ Fills roles catalog place selected := by
  cases place with
  | role r output =>
    simp only [Place.selected?, RoleMap.column?, Option.map_eq_some_iff, Option.filter_eq_some_iff,
      decide_eq_true_eq]
    constructor
    · rintro ⟨column, ⟨set, filled⟩, rfl⟩
      exact .role set filled
    · intro fills
      cases fills with
      | role set filled => exact ⟨_, ⟨set, filled⟩, rfl⟩
  | fixed name =>
    simp only [Place.selected?, Catalog.column?, Option.map_eq_some_iff,
      Catalog.IsFirst.find?_eq_some_iff, beq_iff_eq]
    constructor
    · rintro ⟨column, ⟨_, first⟩, rfl⟩
      exact .fixed first
    · intro fills
      cases fills with
      | fixed first => exact ⟨_, ⟨_, first⟩, rfl⟩

theorem Fills.lower_resultName (fills : Fills roles catalog place selected) :
    lower selected.resultName = lower place.output := by
  cases fills with
  | role => rfl
  | fixed first => exact first.own

theorem projection_eq_filterMap (roles : RoleMap) (catalog : Catalog) :
    projection roles catalog = Place.all.filterMap (Place.selected? roles catalog) := by
  unfold projection Place.all
  rw [List.filterMap_append, List.filterMap_append]
  simp only [List.filterMap_map]
  rfl

/-- What a list keeps, item by item, beside what is made of it. -/
theorem forall₂_filterMap {α β : Type} (f : α → Option β) (items : List α) :
    List.Forall₂ (fun item made => f item = some made) (items.filter fun item => (f item).isSome)
      (items.filterMap f) := by
  induction items with
  | nil => exact .nil
  | cons item rest ih =>
    cases made : f item with
    | none => simpa [made] using ih
    | some b => simpa [made] using ih

/-- The places that are filled, each once and in order. -/
def Place.filled (roles : RoleMap) (catalog : Catalog) : List Place :=
  all.filter fun place => (place.selected? roles catalog).isSome

theorem forall₂_fills (roles : RoleMap) (catalog : Catalog) :
    List.Forall₂ (Fills roles catalog) (Place.filled roles catalog) (projection roles catalog) := by
  rw [projection_eq_filterMap]
  exact (forall₂_filterMap (Place.selected? roles catalog) Place.all).imp fun _ _ =>
    selected?_eq_some_iff.mp

/-- The names in the result. -/
def resultNames (roles : RoleMap) (catalog : Catalog) : List String :=
  (projection roles catalog).map Selected.resultName

theorem lower_resultNames (roles : RoleMap) (catalog : Catalog) :
    (resultNames roles catalog).map lower =
      (Place.filled roles catalog).map fun place => lower place.output := by
  unfold resultNames
  rw [List.map_map, ← List.forall₂_eq_eq_eq, List.forall₂_map_left_iff, List.forall₂_map_right_iff]
  exact (forall₂_fills roles catalog).flip.imp fun _ _ fills => fills.lower_resultName

theorem nodup_lower_resultNames (roles : RoleMap) (catalog : Catalog) :
    ((resultNames roles catalog).map lower).Nodup := by
  rw [lower_resultNames]
  exact Place.nodup_outputs.sublist (List.filter_sublist.map _)

/-! ### Nothing is lost -/

/-- What a search selects is complete and stays apart. -/
structure Lossless (roles : RoleMap) (catalog : Catalog) : Prop where
  /-- No two names in the result are the same, not even in another case. -/
  distinct : ((resultNames roles catalog).map lower).Nodup
  /-- A row has each value under the name that its column gets. -/
  kept : ∀ values : List Value, values.length = (projection roles catalog).length →
    Pool.rowOf (resultNames roles catalog) values =
      ((resultNames roles catalog).map .plain).zip values
  /-- What is selected are names of columns, as the roles have them or as the table has them. -/
  named : ∀ selected ∈ projection roles catalog, ∃ name,
    selected.expression = Sql.quoteIdent name ∧
      ((∃ role, roles.given role = some name) ∨ name ∈ catalog.names)
  /-- The places that can be filled are filled, one column for each and in the order of the places. -/
  ordered : ∃ filled, filled.Sublist Place.all ∧
    List.Forall₂ (Fills roles catalog) filled (projection roles catalog) ∧
    ∀ place ∈ Place.all, place ∈ filled ↔ ∃ selected, Fills roles catalog place selected
  /-- Each role has one place, and no two places are the same. -/
  complete : (∀ role, (Place.all.filterMap Place.role?).count role = 1) ∧ Place.all.Nodup

theorem lossless (roles : RoleMap) (catalog : Catalog) : Lossless roles catalog := by
  constructor
  case distinct => exact nodup_lower_resultNames roles catalog
  case kept =>
    intro values matched
    apply Pool.rowOf_eq_zip
    · exact .of_map lower (nodup_lower_resultNames roles catalog)
    · simpa [resultNames] using matched
  case named =>
    intro selected member
    rw [projection_eq_filterMap, List.mem_filterMap] at member
    obtain ⟨place, _, chosen⟩ := member
    refine ⟨selected.column, rfl, ?_⟩
    cases selected?_eq_some_iff.mp chosen with
    | role set => exact .inl ⟨_, set⟩
    | fixed first =>
      exact .inr (List.mem_map.mpr ⟨_, List.mem_of_getElem? first.here, rfl⟩)
  case ordered =>
    refine ⟨Place.filled roles catalog, List.filter_sublist, forall₂_fills roles catalog, ?_⟩
    intro place listed
    simp [Place.filled, listed, Option.isSome_iff_exists, selected?_eq_some_iff]
  case complete =>
    exact ⟨Place.count_role, .of_map _ Place.nodup_outputs⟩

end Query

end DomainScout
