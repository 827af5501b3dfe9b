import DomainScout.Catalog.Role
import DomainScout.Sql.Ident

/-!
# Projection

A search selects the columns that play a role under the role's own output name, then the columns
with fixed names as they are, then the counters under short names.
-/
namespace DomainScout.Query

/-- A selected column. -/
structure Selected where
  /-- The column as the table names it. -/
  column : String
  /-- Its name in the result, if that is another one. -/
  output : Option String

namespace Selected

/-- The selected expression. -/
def expression (selected : Selected) : String := Sql.quoteIdent selected.column

/-- The expression with its name in the result. -/
def text (selected : Selected) : String :=
  match selected.output with
  | none => selected.expression
  | some name => selected.expression ++ " AS " ++ name

/-- The name in the result. -/
def resultName (selected : Selected) : String := selected.output.getD selected.column

end Selected

/-- The roles that are selected first, with their names in the result. -/
def leadingRoles : List (Role × String) :=
  [(.domain, "domain"), (.tld, "tld"), (.created, "domain_creation_date"),
   (.expires, "domain_expiration_date"), (.scheduledDelete, "scheduled_delete_date"),
   (.status, "status"), (.deletedFlag, "is_deleted"), (.deletedAt, "deleted_at")]

/-- The columns that are selected as they are. -/
def fixedColumns : List String :=
  ["tld_suffix", "technologies", "country_by_ip", "pr_value", "harmonic_value", "detected_hosts",
   "rdap_whois_last_data_checked", "rdap_whois_method", "domain_last_changed", "registrar",
   "response_status"]

/-- The counters, which are selected last, with their names in the result. -/
def counterRoles : List (Role × String) :=
  [(.wayback, "wayback"), (.spamhaus, "spamhaus"), (.viewsTotal, "viewstotal")]

/-- The columns that play some roles. -/
def selectRoles (roles : RoleMap) (wanted : List (Role × String)) : List Selected :=
  wanted.filterMap fun (role, output) => (roles.column? role).map fun column => ⟨column, some output⟩

/-- The columns with fixed names that the table has. -/
def selectFixed (catalog : Catalog) : List Selected :=
  fixedColumns.filterMap fun name => (catalog.column? name).map fun column => ⟨column.name, none⟩

/-- The columns that a search selects. -/
def projection (roles : RoleMap) (catalog : Catalog) : List Selected :=
  selectRoles roles leadingRoles ++ selectFixed catalog ++ selectRoles roles counterRoles

end DomainScout.Query
