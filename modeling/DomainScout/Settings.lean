import DomainScout.Text.Blank
import DomainScout.Text.Part
import DomainScout.Value.Numeric

/-!
# Settings

Every setting comes from an environment variable or has a default. A variable that should hold a
number and does not is refused.
-/
namespace DomainScout

/-- The variables that are set. -/
abbrev Environment := String → Option String

/-- Everything that can be configured, and the limits that cannot. -/
structure Settings where
  databasePath : String
  poolSize : Int
  /-- Seconds that a statement may run. -/
  queryTimeout : Binary64
  /-- Seconds to wait for a free connection. -/
  acquireTimeout : Binary64
  /-- The table of domains, as `table` or `schema.table`. -/
  table : String
  defaultSchema : String
  logDirectory : String
  logLevel : String
  spamhausUrl : String
  spamhausKey : Option String
  spamhausUser : Option String
  spamhausPassword : Option String
  /-- Seconds that a check result is kept. -/
  checkLifetime : Int

namespace Settings

/-- Seconds that a reputation request may take. -/
def spamhausTimeout : Binary64 := .ofInt 12

/-- Where the archive tells its closest snapshot. -/
def availabilityUrl : String := "https://archive.org/wayback/available"

/-- Where the archive lists its snapshots. -/
def snapshotsUrl : String := "https://web.archive.org/cdx/search/cdx"

/-- Seconds that an availability request may take. -/
def availabilityTimeout : Binary64 := .ofInt 8

/-- Seconds that a listing request may take. -/
def snapshotsTimeout : Binary64 := .ofInt 25

/-- A path with single slashes and without parts that stand for the place itself. Two slashes in
front are kept. -/
def plainPath (path : String) : String :=
  let cs := path.toList
  let slashes := (cs.takeWhile (· == '/')).length
  let root := if slashes = 0 then "" else if slashes = 2 then "//" else "/"
  let parts := (Text.runs (· == '/') cs).filter (· ≠ ['.'])
  let plain := root ++ "/".intercalate (parts.map String.ofList)
  if plain = "" then "." else plain

/-- The first of some variables that is set and not empty. -/
def firstFilled? (environment : Environment) (names : List String) : Option String :=
  names.findSome? fun name => (environment name).filter (· ≠ "")

/-- An integer variable. -/
def integer (environment : Environment) (name : String) (fallback : Int) :
    Except NumberFault Int :=
  match environment name with
  | some s => (Value.text s).toInt
  | none => .ok fallback

/-- A real variable. -/
def real (environment : Environment) (name : String) (fallback : Int) :
    Except NumberFault Binary64 :=
  match environment name with
  | some s => (Value.text s).toReal
  | none => .ok (.ofInt fallback)

/-- The settings of an environment. -/
def ofEnvironment (environment : Environment) : Except NumberFault Settings := do
  let poolSize ← integer environment "DB_POOL_SIZE" 10
  let queryTimeout ← real environment "DB_QUERY_TIMEOUT" 30
  let acquireTimeout ← real environment "DB_ACQUIRE_TIMEOUT" 10
  let checkLifetime ← integer environment "CHECK_TTL_SECONDS" 900
  let text name fallback := (environment name).getD fallback
  return {
    databasePath := text "DOMAINS_DB_PATH" "domains.duckdb"
    poolSize
    queryTimeout
    acquireTimeout
    table := text "DOMAINS_TABLE" "expired_domains"
    defaultSchema := text "DOMAINS_DEFAULT_SCHEMA" "main"
    logDirectory := plainPath (text "LOG_DIR" "logs")
    logLevel := text "LOG_LEVEL" "INFO"
    spamhausUrl := String.ofList (Text.dropEndWhile (· == '/')
      (text "SPAMHAUS_INTEL_BASE_URL" "https://api.spamhaus.com").toList)
    spamhausKey := firstFilled? environment
      ["SPAMHAUS_INTEL_API_KEY", "SPAMHAUS_API_KEY", "SPAMHAUS_INTEL_TOKEN"]
    spamhausUser := firstFilled? environment ["SPAMHAUS_INTEL_USERNAME"]
    spamhausPassword := firstFilled? environment ["SPAMHAUS_INTEL_PASSWORD"]
    checkLifetime }

example : plainPath "//a/./b//c" = "//a/b/c" := by decide +kernel

end Settings

end DomainScout
