import DomainScout.Text.Name
import DomainScout.Value.Basic

/-!
# Search criteria

Criteria are independent filters, all of them optional. Most hold a text, which the query
interprets; besides these there are the set of top-level domains, the lifecycle state, and two
safety flags. Criteria can be written back as an object, in either spelling of the field names.
-/
namespace DomainScout

/-- Where a domain stands between registration and deletion. -/
inductive Lifecycle where
  | active
  | expiring
  | deleted
  deriving DecidableEq

/-- The name that clients use. -/
def Lifecycle.name : Lifecycle → String
  | active => "active"
  | expiring => "expiring"
  | deleted => "deleted"

/-- The state that a name stands for. -/
def Lifecycle.ofName? (name : String) : Option Lifecycle :=
  [active, expiring, deleted].find? (·.name = name)

namespace Criteria

/-- The filters that hold a text. -/
inductive TextField where
  | domainStartsWith
  | domainEndsWith
  | expiringWithinDays
  | creationDateFrom
  | creationDateTo
  | ageYearsFrom
  | ageYearsTo
  | countryByIp
  | registrarContains
  | technologiesContains
  | responseStatusContains
  | detectedHostsMin
  | detectedHostsMax
  | expirationFrom
  | expirationTo
  | waybackMinSnapshots
  deriving DecidableEq

/-- The name of a text filter. -/
def TextField.name : TextField → String
  | domainStartsWith => "domain_starts_with"
  | domainEndsWith => "domain_ends_with"
  | expiringWithinDays => "expiring_within_days"
  | creationDateFrom => "creation_date_from"
  | creationDateTo => "creation_date_to"
  | ageYearsFrom => "age_years_from"
  | ageYearsTo => "age_years_to"
  | countryByIp => "country_by_ip"
  | registrarContains => "registrar_contains"
  | technologiesContains => "technologies_contains"
  | responseStatusContains => "response_status_contains"
  | detectedHostsMin => "detected_hosts_min"
  | detectedHostsMax => "detected_hosts_max"
  | expirationFrom => "expiration_from"
  | expirationTo => "expiration_to"
  | waybackMinSnapshots => "wayback_min_snapshots"

/-- The filters. -/
inductive Field where
  | text (field : TextField)
  | tld
  | lifecycle
  | safeSpamhausOnly
  | safeViewsTotalOnly
  deriving DecidableEq

/-- The filters in the order in which problems are reported. -/
def Field.all : List Field :=
  [.text .domainStartsWith, .text .domainEndsWith, .tld, .lifecycle, .text .expiringWithinDays,
   .text .creationDateFrom, .text .creationDateTo, .text .ageYearsFrom, .text .ageYearsTo,
   .text .countryByIp, .text .registrarContains, .text .technologiesContains,
   .text .responseStatusContains, .text .detectedHostsMin, .text .detectedHostsMax,
   .text .expirationFrom, .text .expirationTo, .text .waybackMinSnapshots, .safeSpamhausOnly,
   .safeViewsTotalOnly]

/-- The name of a filter. -/
def Field.name : Field → String
  | text field => field.name
  | tld => "tld"
  | lifecycle => "lifecycle_state"
  | safeSpamhausOnly => "safe_spamhaus_only"
  | safeViewsTotalOnly => "safe_views_total_only"

/-- Two ways to write the names of fields. -/
inductive Spelling where
  /-- With underscores between the words. -/
  | snake
  /-- With the words joined and their first letters in upper case. -/
  | camel
  deriving DecidableEq

/-- A name in a spelling. -/
def Spelling.write : Spelling → String → String
  | snake, name => name
  | camel, name => Text.camelCase name

/-- The older name of the lifecycle filter. -/
def lifecycleAlias : String := "expired_state"

/-- The keys under which a filter may come, the preferred one first. -/
def Field.keys : Field → List String
  | lifecycle =>
    [Spelling.camel, Spelling.snake].flatMap fun spelling =>
      [spelling.write Field.lifecycle.name, spelling.write lifecycleAlias]
  | field => [Spelling.camel.write field.name, field.name]

end Criteria

/-- What a search filters by. -/
structure Criteria where
  /-- The text of each text filter that is set. -/
  text : Criteria.TextField → Option String
  /-- The top-level domains to look in. -/
  tlds : List String
  /-- The lifecycle state to look for. -/
  lifecycle : Option Lifecycle
  /-- Leave out what the reputation column flags. -/
  safeSpamhausOnly : Bool
  /-- Leave out what the counter of flagged views flags. -/
  safeViewsTotalOnly : Bool

namespace Criteria

/-- No filter at all. -/
def unfiltered : Criteria := ⟨fun _ => none, [], none, false, false⟩

/-- The value of a filter. -/
def value (criteria : Criteria) : Field → Value
  | .text field => .ofText? (criteria.text field)
  | .tld => .list (criteria.tlds.map .text)
  | .lifecycle => .ofText? (criteria.lifecycle.map Lifecycle.name)
  | .safeSpamhausOnly => .bool criteria.safeSpamhausOnly
  | .safeViewsTotalOnly => .bool criteria.safeViewsTotalOnly

/-- Criteria as an object with every field under the name that `key` gives it. -/
def encode (key : Field → String) (criteria : Criteria) : Value :=
  .object (Field.all.map fun field => (key field, criteria.value field))

end Criteria

end DomainScout
