import DomainScout.Store.Database
import DomainScout.Value.Display

/-!
# The connection pool

Queries share one connection and run at most so many at a time. A query takes a slot, opens the
connection if nobody has done so, opens a cursor with a deadline, runs, closes the cursor and gives
the slot back. It gives the slot back however it ends, and the cursor is closed whenever it was
opened.

The pool is a state that changes with every step of a query, so that the steps of several queries
can come in any order.
-/
namespace DomainScout

/-- How far a query is that has a slot. -/
inductive QueryPhase where
  /-- It has a slot and nothing else. -/
  | admitted
  /-- The connection is open. -/
  | connected
  /-- Its cursor is open and its deadline is set. -/
  | ready
  /-- Its statement is being carried out. -/
  | executing
  /-- It is over, and its cursor is closed if it had one. -/
  | ended
  deriving DecidableEq

/-- A query that has a slot. -/
structure ActiveQuery where
  id : Nat
  phase : QueryPhase
  deriving DecidableEq

/-- How a pool is set up. -/
structure PoolConfig where
  path : String
  /-- The greatest number of queries at a time; at least one is allowed in any case. -/
  size : Int
  /-- Seconds that a statement may run, as text. -/
  queryTimeout : String
  /-- Seconds to wait for a slot, as text. -/
  acquireTimeout : String
  readOnly : Bool

namespace PoolConfig

/-- The path of a database that is kept in memory only. -/
def memoryPath : String := ":memory:"

/-- How many queries run at a time. -/
def capacity (config : PoolConfig) : Nat := (max 1 config.size).toNat

/-- The database is opened for reading only; one in memory never is. -/
def opensReadOnly (config : PoolConfig) : Bool := config.readOnly && config.path != memoryPath

end PoolConfig

/-- What a pool asks of the database engine. -/
inductive EngineCall where
  | connect (path : String) (readOnly : Bool)
  | execute (sql : String) (parameters : Option (List Value))
  | interrupt
  | closeCursor
  | closeConnection

/-- What a pool keeps. -/
structure Pool where
  config : PoolConfig
  /-- Slots that nobody has. -/
  free : Nat
  /-- The connection is open. -/
  isOpen : Bool
  active : List ActiveQuery
  /-- The queries whose cursor is open. -/
  cursors : List Nat
  /-- The queries whose deadline is set. -/
  deadlines : List Nat
  /-- What was asked of the engine. -/
  calls : List EngineCall

namespace Pool

/-- A pool that nobody uses. -/
def new (config : PoolConfig) : Pool := ⟨config, config.capacity, false, [], [], [], []⟩

/-- Put a call on record. -/
def noted (pool : Pool) (call : EngineCall) : Pool := { pool with calls := pool.calls ++ [call] }

/-- The phase of a query that has a slot. -/
def phase? (pool : Pool) (id : Nat) : Option QueryPhase :=
  (pool.active.find? (·.id == id)).map ActiveQuery.phase

/-- Move a query to a phase. -/
def move (pool : Pool) (id : Nat) (phase : QueryPhase) : Pool :=
  { pool with active := pool.active.map fun query =>
      if query.id = id then { query with phase } else query }

/-- A query asks for a slot: whether it gets one. -/
def acquire (pool : Pool) (id : Nat) : Bool × Pool :=
  match pool.free with
  | 0 => (false, pool)
  | free + 1 => (true, { pool with free, active := pool.active ++ [⟨id, .admitted⟩] })

/-- A query makes sure that the connection is open; opening it may fail with a message. -/
def connect (pool : Pool) (id : Nat) (failure : Option String) : Except String Unit × Pool :=
  if pool.isOpen then (.ok (), pool.move id .connected)
  else
    let pool := pool.noted (.connect pool.config.path pool.config.opensReadOnly)
    match failure with
    | none => (.ok (), { pool with isOpen := true }.move id .connected)
    | some message => (.error message, pool.move id .ended)

/-- A query opens its cursor and sets its deadline; without a cursor it is over. -/
def start (pool : Pool) (id : Nat) (opened : Bool) : Pool :=
  if opened then
    { pool.move id .ready with
      cursors := pool.cursors ++ [id]
      deadlines := pool.deadlines ++ [id] }
  else pool.move id .ended

/-- The values that go with a statement; an empty list counts as none. -/
def parametersFor (parameters : List Value) : Option (List Value) :=
  if parameters.isEmpty then none else some parameters

/-- A query hands its statement to the engine. -/
def submit (pool : Pool) (id : Nat) (sql : String) (parameters : List Value) : Pool :=
  (pool.noted (.execute sql (parametersFor parameters))).move id .executing

/-- The deadline of a query is reached, unless it was cancelled: its cursor is interrupted. -/
def interrupt (pool : Pool) (id : Nat) : Pool :=
  if id ∈ pool.deadlines then pool.noted .interrupt else pool

/-- A query cancels its deadline and closes its cursor. -/
def finish (pool : Pool) (id : Nat) : Pool :=
  { (pool.noted .closeCursor).move id .ended with
    cursors := pool.cursors.filter (· ≠ id)
    deadlines := pool.deadlines.filter (· ≠ id) }

/-- A query gives its slot back. -/
def release (pool : Pool) (id : Nat) : Pool :=
  { pool with free := pool.free + 1, active := pool.active.filter (·.id != id) }

/-- Close the connection. -/
def close (pool : Pool) : Pool :=
  if pool.isOpen then { pool.noted .closeConnection with isOpen := false } else pool

/-- What is told when no slot fell free in time. -/
def acquireMessage (config : PoolConfig) : String :=
  "No database connection available within " ++ config.acquireTimeout ++ "s"

/-- What is told when the connection could not be opened. -/
def openMessage (config : PoolConfig) (message : String) : String :=
  "Cannot open database " ++ config.path ++ ": " ++ message

/-- What is told when a statement ran too long. -/
def deadlineMessage (config : PoolConfig) : String :=
  "Query exceeded " ++ config.queryTimeout ++ "s and was interrupted"

/-- How the engine carries out a statement. -/
inductive Execution where
  /-- The rows, under the names of their columns. -/
  | rows (columns : List String) (values : List (List Value))
  /-- The statement is refused. -/
  | failed (message : String)
  /-- The statement was interrupted by something else than its deadline. -/
  | interrupted
  /-- The statement runs until its deadline. -/
  | endless
  | crashed (crash : Crash)

/-- A row from its values; of two columns with one name the later one counts, and values without a
column are dropped. -/
def rowOf (columns : List String) (values : List Value) : Row :=
  Value.ofPairs ((columns.map .plain).zip values)

/-- What a statement comes to. -/
def Execution.result (config : PoolConfig) : Execution → Except Failure (List Row)
  | .rows columns values => .ok (values.map (rowOf columns))
  | .failed message => .error (.query message)
  | .interrupted | .endless => .error (.query (deadlineMessage config))
  | .crashed crash => .error (.crash crash)

/-- Run a statement on an open cursor and close the cursor. -/
def execute (pool : Pool) (id : Nat) (sql : String) (parameters : List Value)
    (execution : Execution) : Except Failure (List Row) × Pool :=
  let pool := pool.submit id sql parameters
  let pool := match execution with
    | .endless => pool.interrupt id
    | _ => pool
  (execution.result pool.config, pool.finish id)

/-- An engine: what the next connection and the next statement come to. -/
structure Engine where
  /-- The messages of failing connections, in order; `none` and what lies beyond is success. -/
  connects : List (Option String)
  /-- What the statements come to, in order; the last one repeats. -/
  executions : List Execution

namespace Engine

/-- What the next connection comes to. -/
def nextConnect (engine : Engine) : Option String × Engine :=
  match engine.connects with
  | [] => (none, engine)
  | first :: rest => (first, { engine with connects := rest })

/-- What the next statement comes to. -/
def nextExecution (engine : Engine) : Execution × Engine :=
  match engine.executions with
  | [] => (.rows [] [], engine)
  | [last] => (last, engine)
  | first :: rest => (first, { engine with executions := rest })

end Engine

/-- Run the query with a number from beginning to end, alone. -/
def query (pool : Pool) (engine : Engine) (id : Nat) (sql : String) (parameters : List Value) :
    Except Failure (List Row) × Pool × Engine :=
  match pool.acquire id with
  | (false, pool) => (.error (.poolTimeout (acquireMessage pool.config)), pool, engine)
  | (true, pool) =>
    let (failure, afterConnect) := if pool.isOpen then (none, engine) else engine.nextConnect
    match pool.connect id failure with
    | (.error message, pool) =>
      (.error (.query (openMessage pool.config message)), pool.release id, afterConnect)
    | (.ok (), pool) =>
      let (execution, engine) := afterConnect.nextExecution
      let (result, pool) := (pool.start id true).execute id sql parameters execution
      (result, pool.release id, engine)

end Pool

/-- The pool that the whole program shares: it is made on first use and dropped when closed. -/
structure SharedPool where
  config : PoolConfig
  pool : Option Pool
  /-- How many pools were made. -/
  made : Nat

namespace SharedPool

/-- Nobody has used the pool yet. -/
def unused (config : PoolConfig) : SharedPool := ⟨config, none, 0⟩

/-- The pool, made if there is none. -/
def get (shared : SharedPool) : Pool × SharedPool :=
  match shared.pool with
  | some pool => (pool, shared)
  | none =>
    let pool := Pool.new shared.config
    (pool, { shared with pool := some pool, made := shared.made + 1 })

/-- Close the pool and drop it: what is asked of the engine for that. -/
def close (shared : SharedPool) : List EngineCall × SharedPool :=
  match shared.pool with
  | some pool => ({ pool with calls := [] }.close.calls, { shared with pool := none })
  | none => ([], shared)

end SharedPool

end DomainScout
