import DomainScout.Proofs.Catalog.Resolution
import DomainScout.Proofs.View.Discovery

/-!
# Tables that grow

Columns that are added to a table stand behind those that it has, so whatever was found first is found
first again. What plays a role therefore goes on to play it, unless a better name has come for the role.
In whatever order the columns stand, no more than one of them has a known name of a role if no two of
them are named alike.

Main statement: `Catalog.roles_outlast`.
-/
namespace DomainScout

open Text

/-- A table with more columns behind its own. -/
def Catalog.grown (catalog : Catalog) (more : List Column) : Catalog := ⟨catalog.columns ++ more⟩

variable {catalog other : Catalog} {more : List Column} {column : Column} {place : Nat}

theorem Catalog.IsFirst.grown {has : Column → Prop} (first : catalog.IsFirst has place column)
    (more : List Column) : (catalog.grown more).IsFirst has place column := by
  obtain ⟨here, own, before⟩ := first
  obtain ⟨inside, -⟩ := List.getElem?_eq_some_iff.mp here
  refine ⟨?_, own, ?_⟩
  · rw [Catalog.grown, List.getElem?_append_left inside, here]
  · rw [Catalog.grown, List.take_append_of_le_length (Nat.le_of_lt inside)]
    exact before

namespace Role

variable {role : Role} {telling : List String}

/-- A column plays a role under a known name, and of the names that tell more all are missing. -/
structure KnownAs (role : Role) (catalog : Catalog) (telling : List String) (place : Nat)
    (column : Column) : Prop where
  order : telling ++ [lower column.name] <+: role.candidates
  missing : ∀ name ∈ telling, Lacks catalog name
  first : catalog.IsFirst (fun other => lower other.name = lower column.name) place column

theorem byCandidate_iff_knownAs :
    role.byCandidate catalog = some column ↔
      ∃ telling place, KnownAs role catalog telling place column := by
  rw [byCandidate_eq_some_iff]
  constructor
  · rintro ⟨telling, name, less, place, order, missing, first⟩
    have named : lower column.name = name := first.own
    subst named
    exact ⟨telling, place, ⟨less, by simp [order]⟩, missing, first⟩
  · rintro ⟨telling, place, ⟨less, order⟩, missing, first⟩
    exact ⟨telling, lower column.name, less, place, by simp [← order], missing, first⟩

theorem column?_of_byCandidate (known : role.byCandidate catalog = some column) :
    role.column? catalog = some column := by
  rw [Role.column?, known, Option.some_or]

theorem KnownAs.column? (known : KnownAs role catalog telling place column) :
    role.column? catalog = some column :=
  column?_of_byCandidate (byCandidate_iff_knownAs.mpr ⟨telling, place, known⟩)

/-- A role that is played under a known name is played under a known name in a larger table: by the same
column, or under a name that tells more. -/
theorem KnownAs.grown (known : KnownAs role catalog telling place column) (more : List Column) :
    KnownAs role (catalog.grown more) telling place column ∨
      ∃ better place' column', KnownAs role (catalog.grown more) better place' column' ∧
        better ++ [lower column'.name] <+: telling := by
  have first := known.first.grown more
  have chosen : lower column.name ∈ role.candidates := known.order.subset (by simp)
  have present : ¬ Lacks (catalog.grown more) (lower column.name) := by
    intro lacks
    exact lacks column (List.mem_of_getElem? first.here) rfl
  -- The first known name of the larger table stands at or before the one of the table.
  cases found : role.byCandidate (catalog.grown more) with
  | none => exact absurd (byCandidate_eq_none_iff.mp found _ chosen) present
  | some column' =>
    obtain ⟨better, place', known'⟩ := byCandidate_iff_knownAs.mp found
    rcases List.prefix_or_prefix_of_prefix known'.order known.order with before | after
    · rcases List.prefix_concat_iff.mp before with same | earlier
      · obtain ⟨rfl, -⟩ := List.append_inj' same rfl
        exact .inl ⟨known.order, known'.missing, first⟩
      · exact .inr ⟨better, place', column', known', earlier⟩
    · rcases List.prefix_concat_iff.mp after with same | later
      · obtain ⟨rfl, -⟩ := List.append_inj' same rfl
        exact .inl ⟨known.order, known'.missing, first⟩
      · exact absurd (known'.missing _ (later.subset (by simp))) present

theorem byFragment_grown (found : role.byFragment catalog = some column) :
    role.byFragment (catalog.grown more) = some column := by
  unfold byFragment Catalog.grown at *
  rw [List.find?_append, found, Option.some_or]

theorem isSome_column?_grown (found : role.column? catalog = some column) :
    (role.column? (catalog.grown more)).isSome = true := by
  rcases Option.or_eq_some_iff.mp found with known | ⟨-, likely⟩
  · obtain ⟨telling, place, known⟩ := byCandidate_iff_knownAs.mp known
    rcases known.grown more with same | ⟨better, place', column', known', -⟩
    · rw [same.column?, Option.isSome_some]
    · rw [known'.column?, Option.isSome_some]
  · rw [Role.column?, byFragment_grown likely, Option.isSome_or, Option.isSome_some, Bool.or_true]

end Role

/-! ### Columns in another order -/

/-- No two columns of a table are named alike, in whatever case. -/
def Catalog.Distinct (catalog : Catalog) : Prop :=
  (catalog.columns.map fun column => lower column.name).Nodup

theorem Catalog.Distinct.column?_eq_some_iff (distinct : catalog.Distinct) (name : String) :
    catalog.column? name = some column ↔
      column ∈ catalog.columns ∧ lower column.name = lower name :=
  find?_eq_some_iff_of_nodup distinct

/-- Columns that are named apart are found wherever they stand. -/
theorem Catalog.Distinct.column?_of_perm (distinct : catalog.Distinct)
    (perm : other.columns.Perm catalog.columns) (name : String) :
    other.column? name = catalog.column? name := by
  have distinct' : other.Distinct := (perm.map _).nodup_iff.mpr distinct
  ext column
  rw [distinct'.column?_eq_some_iff, distinct.column?_eq_some_iff, perm.mem_iff]

theorem Role.byCandidate_of_perm (role : Role) (distinct : catalog.Distinct)
    (perm : other.columns.Perm catalog.columns) :
    role.byCandidate other = role.byCandidate catalog := by
  unfold Role.byCandidate
  congr 1
  funext name
  exact distinct.column?_of_perm perm name

/-! ### What is supported -/

theorem RoleMap.given_resolve_ne_none {role : Role} :
    (RoleMap.resolve catalog).given role ≠ none ↔ ∃ column, role.column? catalog = some column := by
  simp only [RoleMap.resolve, ne_eq, Option.map_eq_none_iff, ← Option.ne_none_iff_exists']

theorem RoleMap.given_grown {role : Role} (given : (RoleMap.resolve catalog).given role ≠ none)
    (more : List Column) : (RoleMap.resolve (catalog.grown more)).given role ≠ none := by
  rw [given_resolve_ne_none] at *
  obtain ⟨column, played⟩ := given
  exact Option.isSome_iff_exists.mp (Role.isSome_column?_grown played)

namespace View

theorem Backed.mono {picked picked' : Role → Option String} {family : Family}
    (more : ∀ role, picked role ≠ none → picked' role ≠ none) (backed : Backed picked family) :
    Backed picked' family := by
  cases family with
  | lifecycle =>
    obtain ⟨role, tells, played⟩ := backed
    exact ⟨role, tells, more role played⟩
  | tld => exact backed.imp (more .tld) (more .domain)
  | ageRange | creationDateRange | keywords | wayback | spamhaus | viewsTotal => exact more _ backed

theorem supported_grown {family : Family} (supported : family.supported (.resolve catalog) = true)
    (more : List Column) : family.supported (.resolve (catalog.grown more)) = true := by
  rw [supported_iff] at *
  exact supported.mono fun role given => RoleMap.given_grown given more

theorem roles_of_run_discover {database : Database} {explorer : Explorer} {found : Capabilities}
    (run : ((discover database : Exploring ViewError Capabilities).run explorer).1 = .ok found) :
    found.roles = .resolve (explorer.inForce database) := by
  obtain ⟨found', after, run', catalog, roles, -⟩ := discovered database explorer
  rw [run'] at run
  cases run
  rw [roles, catalog]

end View

/-! ### Roles outlast growth -/

/-- What of a table still holds when it has grown. -/
structure Catalog.Outlasts (catalog : Catalog) (more : List Column) : Prop where
  /-- A role that is played is still played. -/
  played : ∀ role, (RoleMap.resolve catalog).given role ≠ none →
    (RoleMap.resolve (catalog.grown more)).given role ≠ none
  /-- If it was played under a known name, the same column plays it, or one with a better name. -/
  known : ∀ (role : Role) (column : Column), role.byCandidate catalog = some column →
    ∃ telling place, role.KnownAs catalog telling place column ∧
      (role.column? (catalog.grown more) = some column ∧
          role.KnownAs (catalog.grown more) telling place column ∨
        ∃ better place' column', role.column? (catalog.grown more) = some column' ∧
          role.KnownAs (catalog.grown more) better place' column' ∧
          better ++ [lower column'.name] <+: telling)
  /-- If it was played for want of a known name, the same column plays it while none has come. -/
  likely : ∀ (role : Role) (column : Column),
    role.byCandidate catalog = none → role.byFragment catalog = some column →
    ∃ place, catalog.IsFirst role.Likely place column ∧
      ((∀ name ∈ role.candidates, Role.Lacks (catalog.grown more) name) →
        role.column? (catalog.grown more) = some column ∧
          (catalog.grown more).IsFirst role.Likely place column)
  /-- In whatever order columns stand that are named apart, what is played under a known name is played
  by the same column. -/
  reordered : ∀ other : Catalog, catalog.Distinct → other.columns.Perm catalog.columns →
    ∀ (role : Role) (column : Column), role.byCandidate catalog = some column →
      role.byCandidate other = some column ∧
        (RoleMap.resolve other).given role = (RoleMap.resolve catalog).given role
  /-- What was told to be supported is told to be supported. -/
  supported : ∀ (database database' : Database) (explorer explorer' : Explorer)
      (found found' : View.Capabilities),
    explorer.inForce database = catalog → explorer'.inForce database' = catalog.grown more →
    ((View.discover database : Exploring ViewError _).run explorer).1 = .ok found →
    ((View.discover database' : Exploring ViewError _).run explorer').1 = .ok found' →
    ∀ family : View.Family, family.supported found.roles = true →
      family.supported found'.roles = true

/-- Whatever columns are added to a table, its roles are played on. -/
theorem Catalog.roles_outlast (catalog : Catalog) (more : List Column) : Outlasts catalog more := by
  constructor
  case played => exact fun role given => RoleMap.given_grown given more
  case known =>
    intro role column found
    obtain ⟨telling, place, known⟩ := Role.byCandidate_iff_knownAs.mp found
    refine ⟨telling, place, known, ?_⟩
    rcases known.grown more with same | ⟨better, place', column', known', earlier⟩
    · exact .inl ⟨same.column?, same⟩
    · exact .inr ⟨better, place', column', known'.column?, known', earlier⟩
  case likely =>
    intro role column unknown found
    obtain ⟨place, first⟩ := Role.byFragment_eq_some_iff.mp found
    refine ⟨place, first, fun lacks => ⟨?_, first.grown more⟩⟩
    rw [Role.column?, Role.byCandidate_eq_none_iff.mpr lacks, Option.none_or]
    exact Role.byFragment_grown found
  case reordered =>
    intro other distinct perm role column found
    have found' : role.byCandidate other = some column := by
      rw [role.byCandidate_of_perm distinct perm, found]
    refine ⟨found', ?_⟩
    simp only [RoleMap.resolve, Role.column?_of_byCandidate found, Role.column?_of_byCandidate found']
  case supported =>
    intro database database' explorer explorer' found found' inForce inForce' run run' family supported
    rw [View.roles_of_run_discover run, inForce] at supported
    rw [View.roles_of_run_discover run', inForce']
    exact View.supported_grown supported more

end DomainScout
