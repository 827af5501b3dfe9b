import DomainScout.Json.Writer
import DomainScout.View.Catalog
import DomainScout.View.Check

/-!
# The command line

A command browses the database or checks domains. Checks of several domains run at the same time,
and their results are printed in the order of the arguments. The exit code tells whether every
domain was valid and every result clean.
-/
namespace DomainScout

/-- What the command line asks for. -/
inductive Command where
  /-- Tell how to use the program; being asked for it is no failure. -/
  | usage (asked : Bool)
  | tables
  | columns (table : Value)
  | capabilities
  | check (domains : List String)

namespace Command

/-- How to use the program. -/
def usageText : String :=
  "\nCheck expired domains from the terminal.\n\nUsage:\n"
  ++ "    python check_domains.py example.com foo.org   # Spamhaus + Wayback checks\n"
  ++ "    python check_domains.py --capabilities         # What the domains table supports\n"
  ++ "    python check_domains.py --tables               # List database tables\n"
  ++ "    python check_domains.py --columns [table]      "
  ++ "# Columns of a table (domains table by default)\n"

/-- An argument that is no domain. -/
def isOption (argument : String) : Bool := argument.toList.head? == some '-'

/-- Read the arguments. -/
def parse (arguments : List String) : Command :=
  if arguments.isEmpty then usage false
  else if arguments.contains "-h" || arguments.contains "--help" then usage true
  else if arguments.contains "--tables" then tables
  else if arguments.contains "--columns" then
    columns (.ofText? (arguments.filter (· != "--columns")).head?)
  else if arguments.contains "--capabilities" then capabilities
  else check (arguments.filter (!isOption ·))

/-- What a command prints and how it ends. -/
structure Result where
  /-- The texts that are printed, each followed by a line feed. -/
  printed : List String
  /-- The errors that are told. -/
  errors : List String
  /-- The exit code, or the failure that nobody handled. -/
  ending : Except Failure Nat

/-- The whole output. -/
def Result.output (result : Result) : String :=
  String.join (result.printed.map (· ++ "\n"))

/-- The result of a command that browses the database. -/
def browsed : Except ViewError Value → Result
  | .ok v => ⟨[Json.indented v], [], .ok 0⟩
  | .error (.invalid message) | .error (.service message) => ⟨[], [message], .ok 1⟩
  | .error (.unhandled failure) => ⟨[], [], .error failure⟩

/-- One domain of the command line and what its check came to. -/
abbrev CheckedDomain := String × Except CheckError Checked

/-- The check gave a report without errors. -/
def isClean : Except CheckError Checked → Bool
  | .ok checked => checked.report.isClean
  | .error _ => false

/-- Tell the results one after the other; the first one that nobody handles ends the command. -/
def tell (clean : Bool) : List CheckedDomain → Result
  | [] => ⟨[], [], .ok (if clean then 0 else 2)⟩
  | (domain, result) :: rest =>
    match View.checkResult result with
    | .ok v =>
      let later := tell (clean && isClean result) rest
      { later with printed := Json.indented v :: later.printed }
    | .error (.invalid message) | .error (.service message) =>
      let later := tell false rest
      { later with errors := (domain ++ ": " ++ message) :: later.errors }
    | .error (.unhandled failure) => ⟨[], [], .error failure⟩

/-- What a command works with. -/
structure Tools (σ : Type) where
  database : Database
  databasePath : String
  databaseExists : Bool
  sites : CheckSites σ

/-- What a command changes. -/
structure State (σ : Type) where
  explorer : Explorer
  service : CheckService σ

variable {σ : Type}

/-- Browse the database, if there is one. -/
def browse (tools : Tools σ) (state : State σ) (view : Exploring ViewError Value) :
    Result × State σ :=
  if tools.databaseExists then
    let (answer, explorer) := view.run state.explorer
    (browsed answer, { state with explorer })
  else (⟨[], ["Database not found: " ++ tools.databasePath], .ok 1⟩, state)

/-- The results of checks that were made for some domains. -/
def results (service : CheckService σ) (domains : List String) : List CheckedDomain :=
  domains.zipIdx.filterMap fun (domain, caller) =>
    (service.answerOf? caller).map fun answer => (domain, answer.result)

/-- Check some domains at the same time. The program ends with the last answer, and what was still
under way ends with it. -/
def checkAll (tools : Tools σ) (state : State σ) (domains : List String) : Result × State σ :=
  let service := state.service.check tools.sites
    (domains.map fun domain => ⟨0, .text domain, none⟩)
  (tell true (results service domains),
    { state with service := { service with sent := service.sentUntilAnswered } })

/-- Carry out a command. -/
def run (tools : Tools σ) (state : State σ) : Command → Result × State σ
  | usage asked => (⟨[usageText], [], .ok (if asked then 0 else 1)⟩, state)
  | tables => browse tools state (View.tables tools.database)
  | columns table => browse tools state (View.columns tools.database table)
  | capabilities => browse tools state (View.capabilities tools.database)
  | check domains => checkAll tools state domains

end Command

end DomainScout
