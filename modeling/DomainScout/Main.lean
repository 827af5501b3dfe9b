import DomainScout.Command
import DomainScout.Settings
import DomainScout.Store.Pool

/-!
# The program

The program reads its settings from the environment, carries out the command that its arguments
ask for, and prints what the command prints. It is built without a database engine and without a
network: every statement is refused and every request ends in a connection fault.
-/
namespace DomainScout.Main

open Remote

/-- The environment variables that hold settings. -/
def settingNames : List String :=
  ["DOMAINS_DB_PATH", "DB_POOL_SIZE", "DB_QUERY_TIMEOUT", "DB_ACQUIRE_TIMEOUT", "DOMAINS_TABLE",
   "DOMAINS_DEFAULT_SCHEMA", "LOG_DIR", "LOG_LEVEL", "SPAMHAUS_INTEL_BASE_URL",
   "SPAMHAUS_INTEL_API_KEY", "SPAMHAUS_API_KEY", "SPAMHAUS_INTEL_TOKEN", "SPAMHAUS_INTEL_USERNAME",
   "SPAMHAUS_INTEL_PASSWORD", "CHECK_TTL_SECONDS"]

/-- A database that refuses every statement. -/
def noDatabase : Database := fun _ => .error (.query "no database engine")

/-- A network on which nobody can be reached. -/
def noNetwork : Server Unit := fun _ _ => (⟨0, .failed .connect "no network"⟩, ())

/-- The sites that the settings name. -/
def sites (settings : Settings) : CheckSites Unit where
  serve := noNetwork
  reputation := .at settings.spamhausUrl (.ofReal Settings.spamhausTimeout)
  archive :=
    { availabilityUrl := Settings.availabilityUrl
      availabilityTimeout := .ofReal Settings.availabilityTimeout
      snapshotsUrl := Settings.snapshotsUrl
      snapshotsTimeout := .ofReal Settings.snapshotsTimeout }
  epoch := 0

/-- Carry out the command of some arguments. -/
def command (settings : Settings) (arguments : List String) : Command.Result :=
  let tools : Command.Tools Unit :=
    { database := noDatabase
      databasePath := settings.databasePath
      databaseExists := settings.databasePath == PoolConfig.memoryPath
      sites := sites settings }
  let credentials : Credentials :=
    ⟨settings.spamhausKey, settings.spamhausUser, settings.spamhausPassword⟩
  let state : Command.State Unit :=
    { explorer := .new settings.table settings.defaultSchema
      service := .new () credentials (.whole settings.checkLifetime) }
  (Command.run tools state (.parse arguments)).1

end DomainScout.Main

open DomainScout in
/-- Run the program. -/
def main (arguments : List String) : IO UInt32 := do
  let given ← Main.settingNames.mapM fun name => return (name, ← IO.getEnv name)
  match Settings.ofEnvironment fun name => (given.lookup name).join with
  | .error _ =>
    IO.eprintln "a setting that should be a number is none"
    return 1
  | .ok settings =>
    let result := Main.command settings arguments
    IO.print result.output
    for message in result.errors do
      IO.eprintln message
    match result.ending with
    | .ok code => return code.toUInt32
    | .error _ => return 1
