import DomainScout.Catalog.Table

/-!
# Column roles

The table is not known in advance. What a filter needs is a role, and each role is played by the
first column that carries one of the role's known names, the names tried in order; failing that,
by the first column whose name contains one of the role's fragments and is not excluded. A role
that no column plays switches off the filters that need it.
-/
namespace DomainScout

open Text

/-- What a column can mean. -/
inductive Role where
  | domain
  | tld
  | created
  | expires
  | scheduledDelete
  | deletedAt
  | deletedFlag
  | status
  | wayback
  | spamhaus
  | viewsTotal
  deriving DecidableEq

namespace Role

/-- All roles. -/
def all : List Role :=
  [domain, tld, created, expires, scheduledDelete, deletedAt, deletedFlag, status, wayback,
   spamhaus, viewsTotal]

/-- The name of a role. -/
def name : Role → String
  | domain => "domain"
  | tld => "tld"
  | created => "created"
  | expires => "expires"
  | scheduledDelete => "scheduled_delete"
  | deletedAt => "deleted_at"
  | deletedFlag => "deleted_flag"
  | status => "status"
  | wayback => "wayback"
  | spamhaus => "spamhaus"
  | viewsTotal => "views_total"

/-- The names of columns that play a role, the most telling one first. -/
def candidates : Role → List String
  | domain => ["domain", "hostname", "host", "name"]
  | tld => ["tld", "zone", "tld_suffix"]
  | created =>
    ["domain_creation_date", "creation_date", "created_at", "registered_at", "registration_date"]
  | expires =>
    ["domain_expiration_date", "expiration_date", "expires_at", "expires_on", "expiry_date",
     "expire_date"]
  | scheduledDelete =>
    ["drop_date", "delete_date", "deletion_date", "pending_delete_date", "scheduled_delete_date"]
  | deletedAt => ["deleted_at", "dropped_at", "removed_at"]
  | deletedFlag => ["is_deleted", "deleted", "is_dropped", "dropped", "is_removed", "removed"]
  | status => ["status", "domain_status", "state", "domain_state", "lifecycle"]
  | wayback =>
    ["wayback_snapshots", "wayback_total", "wayback_count", "webarchive_snapshots",
     "archive_snapshots", "archive_count"]
  | spamhaus => ["spamhaus_listed", "spamhouse_listed", "spamhaus", "spamhouse"]
  | viewsTotal => ["views_total_listed", "viewstotal_listed", "views_total", "viewstotal"]

/-- What the name of a column may contain to play a role for want of a known name. -/
def fragments : Role → List String
  | domain => ["domain"]
  | created => ["creation", "created", "registered", "registration"]
  | expires => ["expiration", "expire", "expires", "expiry"]
  | scheduledDelete => ["drop", "delete", "deletion"]
  | wayback => ["wayback", "archive"]
  | spamhaus => ["spamhaus", "spamhouse"]
  | viewsTotal => ["viewstotal", "views_total"]
  | tld | deletedAt | deletedFlag | status => []

/-- Names that play another role and are not taken by their fragments. -/
def excluded : Role → List String
  | scheduledDelete => deletedAt.candidates ++ deletedFlag.candidates
  | _ => []

end Role

namespace Role

/-- The first column with a known name of the role. -/
def byCandidate (role : Role) (catalog : Catalog) : Option Column :=
  role.candidates.findSome? catalog.column?

/-- The column's name contains a fragment of the role and is not excluded. -/
def suits (role : Role) (column : Column) : Bool :=
  let name := lower column.name
  role.fragments.any (fun fragment => occursIn fragment.toList name.toList)
    && !role.excluded.contains name

/-- The first column that suits the role by its fragments. -/
def byFragment (role : Role) (catalog : Catalog) : Option Column :=
  catalog.columns.find? role.suits

/-- The column that plays a role. -/
def column? (role : Role) (catalog : Catalog) : Option Column :=
  (role.byCandidate catalog).or (role.byFragment catalog)

end Role

/-- The name of the column that plays each role. -/
structure RoleMap where
  /-- The column as it was given, which may be an empty name. -/
  given : Role → Option String

namespace RoleMap

/-- The column that plays a role; an empty name is none. -/
def column? (roles : RoleMap) (role : Role) : Option String :=
  (roles.given role).filter (· ≠ "")

/-- The roles as the catalog has them. -/
def resolve (catalog : Catalog) : RoleMap :=
  ⟨fun role => (role.column? catalog).map Column.name⟩

/-- The counter columns that are present. -/
def counters (roles : RoleMap) : List String :=
  [Role.wayback, .spamhaus, .viewsTotal].filterMap roles.column?

/-- Some column tells the lifecycle state. -/
def supportsLifecycle (roles : RoleMap) : Bool :=
  [Role.status, .expires, .scheduledDelete, .deletedAt, .deletedFlag].any
    fun role => (roles.column? role).isSome

end RoleMap

end DomainScout
