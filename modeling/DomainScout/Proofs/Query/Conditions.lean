import DomainScout.Proofs.Sql.Content
import DomainScout.Proofs.Sql.Nesting
import DomainScout.Query.Compile

/-!
# The conditions of a filter

A filter looks at the columns of its roles and at columns with fixed names. Its conditions name
these columns only, each names at least one of them, and they keep their connectives in
parentheses.

Main statement: `over_of_mem_conditions`.
-/
namespace DomainScout.Query

open Sql Criteria

/-- The roles whose columns a filter looks at. -/
def Filter.roles : Filter → List Role
  | startsWith | endsWith => [.domain]
  | tld => [.tld, .domain]
  | lifecycle => [.deletedFlag, .deletedAt, .status, .scheduledDelete, .expires]
  | createdFrom | createdTo | age => [.created]
  | expiresFrom | expiresTo => [.expires]
  | waybackMin => [.wayback]
  | safeSpamhaus => [.spamhaus]
  | safeViews => [.viewsTotal]
  | country | registrar | technologies | responseStatus | hostsMin | hostsMax => []

/-- The fixed names of the columns that a filter looks at. -/
def Filter.fixedNames : Filter → List String
  | country => ["country_by_ip"]
  | registrar => ["registrar"]
  | technologies => ["technologies"]
  | responseStatus => ["response_status"]
  | hostsMin | hostsMax => ["detected_hosts"]
  | _ => []

/-- The columns of a target that a filter looks at. -/
def Filter.columns (target : Target) (filter : Filter) : List String :=
  filter.roles.filterMap target.roles.column? ++ filter.fixedNames.filterMap target.fixed?

theorem Filter.role_subset (target : Target) {filter : Filter} {role : Role}
    (known : role ∈ filter.roles) :
    (target.roles.column? role).toList ⊆ filter.columns target := by
  intro name member
  exact List.mem_append_left _ (List.mem_filterMap.mpr ⟨role, known, Option.mem_toList.mp member⟩)

theorem Filter.fixed_subset (target : Target) {filter : Filter} {fixed : String}
    (known : fixed ∈ filter.fixedNames) :
    (target.fixed? fixed).toList ⊆ filter.columns target := by
  intro name member
  exact List.mem_append_right _
    (List.mem_filterMap.mpr ⟨fixed, known, Option.mem_toList.mp member⟩)

/-- A condition over some columns, with its connectives in parentheses. -/
structure Over (names : List String) (p : Predicate) : Prop where
  closed : p.isClosed = true
  mentions : p.columns ≠ []
  within : ∀ name ∈ p.columns, name ∈ names

namespace Over

variable {names : List String} {p : Predicate}

theorem mono (rests : Over names p) {more : List String} (wider : names ⊆ more) : Over more p :=
  ⟨rests.closed, rests.mentions, fun name member => wider (rests.within name member)⟩

theorem not (rests : Over names p) : Over names (.not p) :=
  ⟨rests.closed, rests.mentions, rests.within⟩

end Over

theorem columns_anyOf (p : Predicate) (rest : List Predicate) :
    (Predicate.anyOf p rest).columns = p.columns ++ rest.flatMap Predicate.columns := by
  induction rest generalizing p with
  | nil => simp [Predicate.anyOf]
  | cons q rest ih => simp [Predicate.anyOf, Predicate.columns, ih]

/-- Conditions over the same columns, any of which may hold. -/
theorem Over.anyOf {names : List String} {p : Predicate} {rest : List Predicate}
    (first : Over names p) (others : ∀ q ∈ rest, Over names q) :
    Over names (.group (.anyOf p rest)) := by
  refine ⟨rfl, ?_, ?_⟩
  · simp only [Predicate.columns, columns_anyOf]
    exact fun none => first.mentions (List.append_eq_nil_iff.mp none).1
  · intro name member
    simp only [Predicate.columns, columns_anyOf, List.mem_append, List.mem_flatMap] at member
    rcases member with inFirst | ⟨q, inRest, inQ⟩
    · exact first.within name inFirst
    · exact (others q inRest).within name inQ

/-- A comparison of a column with something that names no column. -/
theorem over_compare {column : String} {left right : Term} (comparison : Comparison)
    (only : left.columns = [column]) (none : right.columns = []) :
    Over [column] (.compare left comparison right) := by
  refine ⟨rfl, ?_, ?_⟩
  · simp [Predicate.columns, only]
  · simp [Predicate.columns, only, none]

theorem over_ask {column : String} {t : Term} (question : Question) (only : t.columns = [column]) :
    Over [column] (.ask t question) := by
  refine ⟨rfl, ?_, ?_⟩
  · simp [Predicate.columns, only]
  · simp [Predicate.columns, only]

/-! ### The conditions of single columns -/

theorem over_matchesAny {column : String} {t : Term} (only : t.columns = [column]) (first : String)
    (more : List String) : Over [column] (matchesAny t first more) := by
  refine Over.anyOf (over_compare _ only rfl) fun q member => ?_
  obtain ⟨p, _, rfl⟩ := List.mem_map.mp member
  exact over_compare _ only rfl

theorem over_flagSet (target : Target) (column : String) :
    Over [column] (flagSet target column) := by
  unfold flagSet
  split
  · exact over_ask _ rfl
  · exact over_compare _ rfl rfl

theorem over_notFlagged (target : Target) (column : String) :
    Over [column] (notFlagged target column) := by
  unfold notFlagged
  split
  · exact over_ask _ rfl
  · refine ⟨rfl, ?_, ?_⟩
    · exact List.cons_ne_nil _ _
    · intro name member
      simpa [Predicate.columns, Term.columns, filledText, textOf, readAs] using member

theorem over_dueWithin (column : String) (days : Int) : Over [column] (dueWithin column days) := by
  refine ⟨rfl, List.cons_ne_nil _ _, ?_⟩
  intro name member
  simpa [dueWithin, Predicate.columns, Term.columns, filledText, textOf, readAs] using member

theorem over_tldConditions (target : Target) (terms : List String) (p : Predicate)
    (member : p ∈ tldConditions target terms) : Over (Filter.columns target .tld) p := by
  cases terms with
  | nil => cases member
  | cons term more =>
    unfold tldConditions at member
    cases own : target.roles.column? .tld with
    | some column =>
      simp only [own, List.mem_singleton] at member
      subst member
      refine ⟨rfl, List.cons_ne_nil _ _, ?_⟩
      simp [Predicate.columns, Term.columns, Filter.columns, Filter.roles, own]
    | none =>
      -- Without a column of its own, the filter looks for names under the top-level domains.
      cases domain : target.roles.column? .domain with
      | none => simp [own, domain] at member
      | some column =>
        simp only [own, domain, List.mem_singleton] at member
        subst member
        have under (term : String) : Over [column] (domainUnder column term) :=
          over_compare _ rfl rfl
        have any : Over [column]
            (.group (.anyOf (domainUnder column term) (more.map (domainUnder column)))) := by
          refine Over.anyOf (under term) fun q member => ?_
          obtain ⟨other, _, rfl⟩ := List.mem_map.mp member
          exact under other
        exact any.mono (by simp [Filter.columns, Filter.roles, own, domain])

/-! ### Lifecycle conditions -/

section Lifecycle

variable {target : Target} {p : Predicate}

theorem over_of_mem_role {role : Role} {condition : String → Predicate}
    (known : role ∈ Filter.lifecycle.roles) (each : ∀ column, Over [column] (condition column))
    (member : p ∈ (target.roles.column? role).map condition) :
    Over (Filter.columns target .lifecycle) p := by
  obtain ⟨column, plays, rfl⟩ := Option.map_eq_some_iff.mp member
  have listed := Filter.role_subset target known
  rw [plays] at listed
  exact (each column).mono listed

theorem over_deletion? (derived : deletion? target = some p) :
    Over (Filter.columns target .lifecycle) p := by
  have evidence : ∀ q ∈ ((target.roles.column? .deletedFlag).map (flagSet target)).toList
      ++ ((target.roles.column? .deletedAt).map deletionRecorded).toList,
      Over (Filter.columns target .lifecycle) q := by
    intro q member
    rcases List.mem_append.mp member with flag | moment
    · exact over_of_mem_role (by decide) (over_flagSet target) (Option.mem_toList.mp flag)
    · exact over_of_mem_role (by decide) (fun column => over_ask _ rfl)
        (Option.mem_toList.mp moment)
  unfold deletion? at derived
  dsimp only at derived
  split at derived
  next first more listed =>
    cases derived
    rw [listed] at evidence
    exact Over.anyOf (evidence first List.mem_cons_self) fun q member =>
      evidence q (.tail first member)
  next =>
    exact over_of_mem_role (by decide) (fun column => over_matchesAny rfl _ _) derived

theorem over_expiring? {days : Int} (derived : expiring? target days = some p) :
    Over (Filter.columns target .lifecycle) p := by
  unfold expiring? at derived
  split at derived
  next column ends =>
    cases derived
    unfold endColumn? at ends
    -- Whichever of the two roles gives the end, it is a role that the filter looks at.
    have due {role : Role} (known : role ∈ Filter.lifecycle.roles)
        (plays : target.roles.column? role = some column) :
        Over (Filter.columns target .lifecycle) (dueWithin column days) :=
      over_of_mem_role known (fun column => over_dueWithin column days)
        (Option.map_eq_some_iff.mpr ⟨column, plays, rfl⟩)
    rcases Option.or_eq_some_iff.mp ends with scheduled | ⟨_, expires⟩
    · exact due (by decide) scheduled
    · exact due (by decide) expires
  next => exact over_of_mem_role (by decide) (fun column => over_matchesAny rfl _ _) derived

theorem over_active? (derived : active? target = some p) :
    Over (Filter.columns target .lifecycle) p := by
  have expiry : ∀ q, (target.roles.column? .expires).map (fun column =>
      Predicate.compare (readAs .timestamp column) .ge .now) = some q →
      Over (Filter.columns target .lifecycle) q := fun q member =>
    over_of_mem_role (by decide) (fun column => over_compare _ rfl rfl) member
  have status : ∀ q, (target.roles.column? .status).map activeStatus = some q →
      Over (Filter.columns target .lifecycle) q := fun q member =>
    over_of_mem_role (by decide) (fun column => over_matchesAny rfl _ _) member
  unfold active? at derived
  dsimp only at derived
  split at derived
  next first second isFirst isSecond =>
    cases derived
    have others : ∀ q ∈ [second], Over (Filter.columns target .lifecycle) q := fun q member =>
      List.mem_singleton.mp member ▸ status second isSecond
    exact Over.anyOf (expiry first isFirst) others
  next =>
    rcases Option.or_eq_some_iff.mp derived with isFirst | ⟨_, isSecond⟩
    · exact expiry p isFirst
    · exact status p isSecond

theorem over_lifecycleConditions (state : Lifecycle) (days : Int)
    (member : p ∈ lifecycleConditions state days target) :
    Over (Filter.columns target .lifecycle) p := by
  have negated : p ∈ ((deletion? target).map .not).toList →
      Over (Filter.columns target .lifecycle) p := by
    intro member
    obtain ⟨q, derived, rfl⟩ := Option.map_eq_some_iff.mp (Option.mem_toList.mp member)
    exact (over_deletion? derived).not
  cases state with
  | deleted => exact over_deletion? (Option.mem_toList.mp member)
  | expiring =>
    rcases List.mem_append.mp member with excluded | ends
    · exact negated excluded
    · exact over_expiring? (Option.mem_toList.mp ends)
  | active =>
    rcases List.mem_append.mp member with excluded | inUse
    · exact negated excluded
    · exact over_active? (Option.mem_toList.mp inUse)

end Lifecycle

/-! ### All filters -/

theorem over_onColumn {column text : Option String} {condition : String → String → Predicate}
    (each : ∀ column text, Over [column] (condition column text)) {p : Predicate}
    (member : p ∈ onColumn column text condition) : Over column.toList p := by
  unfold onColumn at member
  split at member
  next => exact List.mem_singleton.mp member ▸ each _ _
  next => cases member

theorem over_columnLike (toPattern : String → String) (column text : String) :
    Over [column] (columnLike toPattern column text) := over_compare _ rfl rfl

theorem over_columnReads (type : SqlType) (comparison : Comparison) (column text : String) :
    Over [column] (columnReads type comparison column text) := over_compare _ rfl rfl

theorem over_ageConditions (criteria : Criteria) (column : String) {p : Predicate}
    (member : p ∈ ageConditions criteria column) : Over [column] p := by
  simp only [ageConditions, List.mem_append, Option.mem_toList,
    Option.map_eq_some_iff] at member
  rcases member with ⟨least, _, rfl⟩ | ⟨most, _, rfl⟩
  · exact over_compare _ rfl rfl
  · exact over_compare _ rfl rfl

theorem over_safetyConditions (target : Target) (on : Bool) (role : Role) {p : Predicate}
    (member : p ∈ safetyConditions target on role) : Over (target.roles.column? role).toList p := by
  unfold safetyConditions at member
  split at member
  next =>
    obtain ⟨column, plays, rfl⟩ := Option.map_eq_some_iff.mp (Option.mem_toList.mp member)
    rw [plays]
    exact over_notFlagged target column
  next => cases member

/-- Every condition of a filter is over columns that the filter looks at. -/
theorem over_of_mem_conditions {target : Target} {criteria : Criteria} {filter : Filter}
    {p : Predicate} (member : p ∈ filter.conditions target criteria) :
    Over (filter.columns target) p := by
  cases filter with
  | startsWith | endsWith =>
    exact (over_onColumn (over_columnLike _) member).mono (Filter.role_subset target (by decide))
  | tld => exact over_tldConditions target _ p member
  | lifecycle =>
    simp only [Filter.conditions] at member
    split at member
    next state _ => exact over_lifecycleConditions state _ member
    next => cases member
  | createdFrom | createdTo | expiresFrom | expiresTo =>
    exact (over_onColumn (over_columnReads _ _) member).mono
      (Filter.role_subset target (by decide))
  | age =>
    simp only [Filter.conditions] at member
    cases created : target.roles.column? .created with
    | none => simp [created] at member
    | some column =>
      simp only [created, Option.map_some, Option.getD_some] at member
      have listed : (target.roles.column? .created).toList ⊆ Filter.columns target .age :=
        Filter.role_subset target (by decide)
      rw [created] at listed
      exact (over_ageConditions criteria column member).mono listed
  | country =>
    exact (over_onColumn (fun column text => over_compare _ rfl rfl) member).mono
      (Filter.fixed_subset target (by decide))
  | registrar | technologies | responseStatus =>
    exact (over_onColumn (over_columnLike _) member).mono (Filter.fixed_subset target (by decide))
  | hostsMin | hostsMax =>
    exact (over_onColumn (over_columnReads _ _) member).mono
      (Filter.fixed_subset target (by decide))
  | waybackMin =>
    exact (over_onColumn (fun column text => over_compare _ rfl rfl) member).mono
      (Filter.role_subset target (by decide))
  | safeSpamhaus | safeViews =>
    exact (over_safetyConditions target _ _ member).mono (Filter.role_subset target (by decide))

/-- A filter whose columns are all missing has no condition. -/
theorem conditions_eq_nil {target : Target} {filter : Filter}
    (missing : filter.columns target = []) (criteria : Criteria) :
    filter.conditions target criteria = [] := by
  rw [List.eq_nil_iff_forall_not_mem]
  -- A condition names a column, and the filter has none that it could name.
  intro p member
  have rests := over_of_mem_conditions member
  obtain ⟨name, rest, listed⟩ := List.exists_cons_of_ne_nil rests.mentions
  have known := rests.within name (listed ▸ List.mem_cons_self)
  rw [missing] at known
  cases known

end DomainScout.Query
