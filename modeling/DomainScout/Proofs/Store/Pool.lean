import DomainScout.Store.Pool
import Mathlib.Data.List.Count
import Mathlib.Data.List.Nodup

/-!
# The books of the connection pool

Any number of queries use a pool at a time, and it may be closed at any moment. What happens is a
list of incidents: each is a step of one query, with what it leads to, or the end of a waiting time,
a deadline or a closing. An incident that cannot happen as things stand changes nothing.

What happened is put on record, and the pool is held against the record. A query that has a slot
moves through its phases in one direction, whatever its steps come to, and each way out of them
passes through `release`; so the slots that are free and the queries on their way add up.

Main statement: `bookkeeping`.
-/
namespace DomainScout

/-- The phase is one in which the cursor is open and the deadline set. -/
def QueryPhase.holdsCursor : QueryPhase → Bool
  | .ready | .executing => true
  | .admitted | .connected | .ended => false

/-- How many steps a query in this phase has before it at most, the return of its slot included. -/
def QueryPhase.stepsLeft : QueryPhase → Nat
  | .admitted => 5
  | .connected => 4
  | .ready => 3
  | .executing => 2
  | .ended => 1

namespace Pool

/-- What can happen to a pool. -/
inductive Incident where
  /-- A query gets a slot, or has waited for one long enough. -/
  | ask (id : Nat)
  | connect (id : Nat) (failure : Option String)
  | start (id : Nat) (opened : Bool)
  | submit (id : Nat) (sql : String) (parameters : List Value)
  | interrupt (id : Nat)
  /-- A statement ends, well or not. -/
  | finish (id : Nat)
  | release (id : Nat)
  | close

/-- The query that takes a step, if the incident is a step of one that has a slot. -/
def Incident.stepOf? : Incident → Option Nat
  | .connect id _ | .start id _ | .submit id _ _ | .finish id | .release id => some id
  | .ask _ | .interrupt _ | .close => none

/-- The query that the incident is about. -/
def Incident.query? : Incident → Option Nat
  | .ask id | .interrupt id => some id
  | incident => incident.stepOf?

/-- What a record tells. -/
inductive Entry where
  | granted (id : Nat)
  | refused (id : Nat)
  /-- A query opened the connection. -/
  | opened (id : Nat)
  | notOpened (id : Nat) (message : String)
  | cursorOpened (id : Nat)
  | noCursor (id : Nat)
  | submitted (id : Nat) (sql : String) (parameters : List Value)
  | interrupted (id : Nat)
  | finished (id : Nat)
  | released (id : Nat)
  | closed

namespace Entry

/-- The entry tells that a query got a slot. -/
def grants (id : Nat) : Entry → Bool
  | .granted other => other = id
  | _ => false

/-- The entry tells that a query gave its slot back. -/
def releases (id : Nat) : Entry → Bool
  | .released other => other = id
  | _ => false

/-- The entry tells that a query opened its cursor. -/
def opensCursor (id : Nat) : Entry → Bool
  | .cursorOpened other => other = id
  | _ => false

/-- The entry tells that a query closed its cursor. -/
def closesCursor (id : Nat) : Entry → Bool
  | .finished other => other = id
  | _ => false

/-- The query that has moved on. -/
def mover? : Entry → Option Nat
  | .granted id | .opened id | .notOpened id _ | .cursorOpened id | .noCursor id
  | .submitted id _ _ | .finished id | .released id => some id
  | .refused _ | .interrupted _ | .closed => none

/-- What the engine was asked for. -/
def call? (config : PoolConfig) : Entry → Option EngineCall
  | .opened _ | .notOpened _ _ => some (.connect config.path config.opensReadOnly)
  | .submitted _ sql parameters => some (.execute sql (parametersFor parameters))
  | .interrupted _ => some .interrupt
  | .finished _ => some .closeCursor
  | .closed => some .closeConnection
  | .granted _ | .refused _ | .cursorOpened _ | .noCursor _ | .released _ => none

/-- Whether the connection is open, going by the latest entry about it. -/
def openAfter : List Entry → Bool :=
  List.foldl (fun isOpen entry =>
    match entry with
    | .opened _ => true
    | .closed => false
    | _ => isOpen) false

end Entry

/-- Whether an incident can happen as things stand: a query takes its steps in order. -/
def possible (pool : Pool) : Incident → Bool
  | .ask id => pool.phase? id = none
  | .connect id _ => pool.phase? id = some .admitted
  | .start id _ => pool.phase? id = some .connected
  | .submit id _ _ => pool.phase? id = some .ready
  | .interrupt id => id ∈ pool.deadlines
  | .finish id => pool.phase? id = some .executing
  | .release id => pool.phase? id = some .ended
  | .close => true

/-- What an incident does. -/
def happen (pool : Pool) : Incident → Pool
  | .ask id => (pool.acquire id).2
  | .connect id failure => (pool.connect id failure).2
  | .start id opened => pool.start id opened
  | .submit id sql parameters => pool.submit id sql parameters
  | .interrupt id => pool.interrupt id
  | .finish id => pool.finish id
  | .release id => pool.release id
  | .close => pool.close

/-- What is put on record of an incident that happens. -/
def entry? (pool : Pool) : Incident → Option Entry
  | .ask id => some (if (pool.acquire id).1 then .granted id else .refused id)
  | .connect id failure =>
    if pool.isOpen then none else some (failure.elim (.opened id) (.notOpened id))
  | .start id opened => some (if opened then .cursorOpened id else .noCursor id)
  | .submit id sql parameters => some (.submitted id sql parameters)
  | .interrupt id => some (.interrupted id)
  | .finish id => some (.finished id)
  | .release id => some (.released id)
  | .close => if pool.isOpen then some .closed else none

/-- Let an incident happen if it can. -/
def perform (pool : Pool) (incident : Incident) : Pool :=
  if pool.possible incident then pool.happen incident else pool

/-- What is put on record of an incident. -/
def entries (pool : Pool) (incident : Incident) : List Entry :=
  if pool.possible incident then (pool.entry? incident).toList else []

/-- A pool after some incidents. -/
def after (pool : Pool) (incidents : List Incident) : Pool := incidents.foldl perform pool

/-- What is put on record of some incidents. -/
def record (pool : Pool) : List Incident → List Entry
  | [] => []
  | incident :: incidents => pool.entries incident ++ record (pool.perform incident) incidents

/-- How many of some incidents are steps that a query takes. -/
def stepsTaken (pool : Pool) (id : Nat) : List Incident → Nat
  | [] => 0
  | incident :: incidents =>
    (if incident.stepOf? = some id ∧ pool.possible incident then 1 else 0) +
      stepsTaken (pool.perform incident) id incidents

/-! ### Phases -/

section Phases

variable {active : List ActiveQuery} {id other : Nat} {phase : QueryPhase}

/-- The phase of a query among the active ones. -/
def phaseAmong (active : List ActiveQuery) (id : Nat) : Option QueryPhase :=
  (active.find? (·.id == id)).map ActiveQuery.phase

/-- The active queries once one of them has moved to a phase. -/
def movedAmong (active : List ActiveQuery) (id : Nat) (phase : QueryPhase) : List ActiveQuery :=
  active.map fun query => if query.id = id then { query with phase } else query

theorem phaseAmong_moved (here : phaseAmong active id = some phase) (next : QueryPhase) :
    phaseAmong (movedAmong active id next) other =
      if other = id then some next else phaseAmong active other := by
  -- A query keeps its id, so the search stops where it did before the move.
  have kept : ((fun query : ActiveQuery => query.id == other) ∘ fun query : ActiveQuery =>
      if query.id = id then { query with phase := next } else query) =
        fun query => query.id == other := by
    funext query
    by_cases own : query.id = id <;> simp [own]
  unfold phaseAmong at here ⊢
  rw [movedAmong, List.find?_map, kept, Option.map_map]
  by_cases same : other = id
  · subst same
    obtain ⟨query, found, -⟩ := Option.map_eq_some_iff.mp here
    have own : query.id = other := by simpa using List.find?_some found
    simp [found, own]
  · cases found : active.find? (·.id == other) with
    | none => simp [same]
    | some query =>
      have own : query.id = other := by simpa using List.find?_some found
      simp [own, same]

theorem phaseAmong_eq_none : phaseAmong active id = none ↔ id ∉ active.map ActiveQuery.id := by
  simp [phaseAmong]

theorem phaseAmong_granted (new : phaseAmong active id = none) :
    phaseAmong (active ++ [⟨id, phase⟩]) other =
      if other = id then some phase else phaseAmong active other := by
  have absent : active.find? (·.id == id) = none := by simpa [phaseAmong] using new
  by_cases same : other = id
  · subst same
    simp [phaseAmong, absent]
  · have elsewhere : id ≠ other := fun eq => same eq.symm
    cases found : active.find? (·.id == other) <;> simp [phaseAmong, found, same, elsewhere]

theorem phaseAmong_released :
    phaseAmong (active.filter (·.id != id)) other =
      if other = id then none else phaseAmong active other := by
  unfold phaseAmong
  rw [List.find?_filter]
  by_cases same : other = id
  · simp [same]
  · rw [if_neg same]
    congr 2
    funext query
    by_cases own : query.id = other <;> simp [own, same]

@[simp] theorem ids_moved :
    (movedAmong active id phase).map ActiveQuery.id = active.map ActiveQuery.id := by
  unfold movedAmong
  rw [List.map_map]
  apply List.map_congr_left
  intro query _
  by_cases own : query.id = id <;> simp [own]

@[simp] theorem length_moved : (movedAmong active id phase).length = active.length :=
  List.length_map _

/-- Of queries that are told apart, one leaves when it gives its slot back. -/
theorem length_released (distinct : (active.map ActiveQuery.id).Nodup)
    (here : phaseAmong active id = some phase) :
    (active.filter (·.id != id)).length + 1 = active.length := by
  have present : id ∈ active.map ActiveQuery.id := by
    by_contra absent
    rw [phaseAmong_eq_none.mpr absent] at here
    cases here
  have left : (active.filter (·.id != id)).map ActiveQuery.id =
      (active.map ActiveQuery.id).erase id := by
    rw [distinct.erase_eq_filter, List.filter_map]
    rfl
  have shorter := List.length_erase_of_mem present
  have inhabited := List.length_pos_of_mem present
  rw [← left] at shorter
  simp only [List.length_map] at shorter inhabited
  omega

end Phases

section

variable {pool : Pool} {id : Nat} {record : List Entry}

theorem phase?_eq : pool.phase? id = phaseAmong pool.active id := rfl

theorem move_eq (phase : QueryPhase) :
    pool.move id phase = { pool with active := movedAmong pool.active id phase } := rfl

/-- The query is in a phase in which its cursor is open and its deadline set. -/
def holdsCursor (pool : Pool) (id : Nat) : Bool := (pool.phase? id).any QueryPhase.holdsCursor

/-- The pool once a query has got a slot, with so many left. -/
def granting (pool : Pool) (id free : Nat) : Pool :=
  { pool with free, active := pool.active ++ [⟨id, .admitted⟩] }

/-! ### What an incident comes to -/

/-- The ways in which an incident can end, with what is put on record. -/
inductive Performed (pool : Pool) : List Entry → Pool → Prop
  | idle : Performed pool [] pool
  | refused {id : Nat} (taken : pool.free = 0) : Performed pool [.refused id] pool
  | granted {id free : Nat} (new : pool.phase? id = none) (spare : pool.free = free + 1) :
      Performed pool [.granted id] (pool.granting id free)
  | connected {id : Nat} (here : pool.phase? id = some .admitted) (set : pool.isOpen = true) :
      Performed pool [] (pool.move id .connected)
  | opened {id : Nat} (here : pool.phase? id = some .admitted) (unset : pool.isOpen = false) :
      Performed pool [.opened id]
        (move { pool.noted (.connect pool.config.path pool.config.opensReadOnly) with isOpen := true }
          id .connected)
  | notOpened {id : Nat} {message : String} (here : pool.phase? id = some .admitted)
      (unset : pool.isOpen = false) :
      Performed pool [.notOpened id message]
        ((pool.noted (.connect pool.config.path pool.config.opensReadOnly)).move id .ended)
  | cursorOpened {id : Nat} (here : pool.phase? id = some .connected) :
      Performed pool [.cursorOpened id] (pool.start id true)
  | noCursor {id : Nat} (here : pool.phase? id = some .connected) :
      Performed pool [.noCursor id] (pool.move id .ended)
  | submitted {id : Nat} {sql : String} {parameters : List Value}
      (here : pool.phase? id = some .ready) :
      Performed pool [.submitted id sql parameters] (pool.submit id sql parameters)
  | interrupted {id : Nat} (set : id ∈ pool.deadlines) :
      Performed pool [.interrupted id] (pool.noted .interrupt)
  | finished {id : Nat} (here : pool.phase? id = some .executing) :
      Performed pool [.finished id] (pool.finish id)
  | released {id : Nat} (here : pool.phase? id = some .ended) :
      Performed pool [.released id] (pool.release id)
  | closed (set : pool.isOpen = true) :
      Performed pool [.closed] { pool.noted .closeConnection with isOpen := false }

theorem performed (pool : Pool) (incident : Incident) :
    Performed pool (pool.entries incident) (pool.perform incident) := by
  unfold perform entries
  by_cases can : pool.possible incident = true
  swap
  · simp only [can]
    exact .idle
  simp only [can, if_true]
  cases incident with
  | ask id =>
    have new : pool.phase? id = none := by simpa [possible] using can
    cases spare : pool.free with
    | zero => simpa [happen, entry?, acquire, spare] using .refused spare
    | succ free => simpa [happen, entry?, acquire, spare, granting] using .granted new spare
  | connect id failure =>
    have here : pool.phase? id = some .admitted := by simpa [possible] using can
    cases set : pool.isOpen with
    | true => simpa [happen, entry?, connect, set] using .connected here set
    | false =>
      cases failure with
      | none => simpa [happen, entry?, connect, set] using .opened here set
      | some message => simpa [happen, entry?, connect, set] using .notOpened here set
  | start id opened =>
    have here : pool.phase? id = some .connected := by simpa [possible] using can
    cases opened with
    | true => exact .cursorOpened here
    | false => exact .noCursor here
  | submit id sql parameters => exact .submitted (by simpa [possible] using can)
  | interrupt id =>
    have set : id ∈ pool.deadlines := by simpa [possible] using can
    simpa [happen, entry?, interrupt, set] using .interrupted set
  | finish id => exact .finished (by simpa [possible] using can)
  | release id => exact .released (by simpa [possible] using can)
  | close =>
    cases set : pool.isOpen with
    | true => simpa [happen, entry?, close, set] using .closed set
    | false => simpa [happen, entry?, close, set] using .idle

/-! ### What an incident is to one query -/

/-- The ways in which an incident can concern a query: it is none of its business, or the query gets
its slot, moves on, or gives its slot back. -/
inductive Concern (id : Nat) (pool : Pool) (entries : List Entry) (after : Pool) : Prop
  | aside (phase : after.phase? id = pool.phase? id)
      (cursor : id ∈ after.cursors ↔ id ∈ pool.cursors)
      (deadline : id ∈ after.deadlines ↔ id ∈ pool.deadlines)
      (quiet : ∀ entry ∈ entries, entry.mover? ≠ some id)
  | granted (before : pool.phase? id = none) (now : after.phase? id = some .admitted)
      (cursor : id ∈ after.cursors ↔ id ∈ pool.cursors)
      (deadline : id ∈ after.deadlines ↔ id ∈ pool.deadlines) (noted : entries = [.granted id])
  | moved {phase next : QueryPhase} (before : pool.phase? id = some phase)
      (now : after.phase? id = some next) (fewer : next.stepsLeft < phase.stepsLeft)
      (cursor : (id ∈ pool.cursors ↔ phase.holdsCursor) → (id ∈ after.cursors ↔ next.holdsCursor))
      (deadline :
        (id ∈ pool.deadlines ↔ phase.holdsCursor) → (id ∈ after.deadlines ↔ next.holdsCursor))
      (slots : entries.countP (Entry.grants id) = 0 ∧ entries.countP (Entry.releases id) = 0)
      (cursors : entries.countP (Entry.opensCursor id) + phase.holdsCursor.toNat =
        entries.countP (Entry.closesCursor id) + next.holdsCursor.toNat)
      (submits : ∀ sql parameters, .submitted id sql parameters ∈ entries → next = .executing)
      (finishes : phase = .executing → .finished id ∈ entries)
  | released (before : pool.phase? id = some .ended) (now : after.phase? id = none)
      (cursor : id ∈ after.cursors ↔ id ∈ pool.cursors)
      (deadline : id ∈ after.deadlines ↔ id ∈ pool.deadlines) (noted : entries = [.released id])

theorem Performed.concern {entries : List Entry} {after : Pool}
    (ended : Performed pool entries after) (id : Nat) : Concern id pool entries after := by
  cases ended with
  | idle => exact .aside rfl .rfl .rfl nofun
  | refused | interrupted | closed => exact .aside rfl .rfl .rfl (by simp [Entry.mover?])
  | @granted other _ new =>
    by_cases same : id = other
    · subst same
      exact .granted new (by simp [phase?_eq, granting, phaseAmong_granted new]) .rfl .rfl rfl
    · refine .aside ?_ .rfl .rfl (by simpa [Entry.mover?] using fun eq => same eq.symm)
      simp [phase?_eq, granting, phaseAmong_granted new, same]
  | @released other here =>
    by_cases same : id = other
    · subst same
      exact .released here (by simp [phase?_eq, release, phaseAmong_released]) .rfl .rfl rfl
    · refine .aside ?_ .rfl .rfl (by simpa [Entry.mover?] using fun eq => same eq.symm)
      simp [phase?_eq, release, phaseAmong_released, same]
  | @connected other here | @opened other here | @notOpened other _ here | @cursorOpened other here
  | @noCursor other here | @submitted other _ _ here | @finished other here =>
    -- In each of these one query moves on, which is nothing to the others.
    by_cases same : id = other
    · subst same
      apply Concern.moved here (by
        simp only [start, submit, finish, noted, move_eq, phase?_eq, phaseAmong_moved here, if_true]
        rfl)
      all_goals simp [start, submit, finish, noted, move_eq, QueryPhase.stepsLeft,
        QueryPhase.holdsCursor, Entry.grants, Entry.releases, Entry.opensCursor, Entry.closesCursor]
    · have elsewhere : other ≠ id := fun eq => same eq.symm
      apply Concern.aside
      all_goals simp [start, submit, finish, noted, move_eq, phase?_eq, phaseAmong_moved here, same,
        elsewhere, Entry.mover?]

/-! ### What the record and the pool have to do with each other -/

/-- What a longer record tells was told before, or is told by what has been added. -/
theorem split_append {record entries before later : List Entry} {entry : Entry}
    (split : record ++ entries = before ++ entry :: later) :
    (∃ earlier, record = before ++ entry :: earlier ∧ later = earlier ++ entries) ∨
      ∃ middle, before = record ++ middle ∧ entries = middle ++ entry :: later := by
  rcases List.append_eq_append_iff.mp split with ⟨middle, before_eq, added⟩ | ⟨rest, known, added⟩
  · exact .inr ⟨middle, before_eq, added⟩
  · cases rest with
    | nil => exact .inr ⟨[], by simp [known], added.symm⟩
    | cons first earlier =>
      rw [List.cons_append, List.cons.injEq] at added
      obtain ⟨rfl, rfl⟩ := added
      exact .inl ⟨earlier, known, rfl⟩

theorem countP_of_quiet {entries : List Entry} {test : Entry → Bool}
    (quiet : ∀ entry ∈ entries, entry.mover? ≠ some id)
    (about : ∀ entry, test entry → entry.mover? = some id) : entries.countP test = 0 :=
  List.countP_eq_zero.mpr fun entry member told => quiet entry member (about entry told)

theorem mover?_of_tells {entry : Entry} (tells : entry.grants id ∨ entry.releases id ∨
    entry.opensCursor id ∨ entry.closesCursor id) : entry.mover? = some id := by
  cases entry <;> simp_all [Entry.grants, Entry.releases, Entry.opensCursor, Entry.closesCursor,
    Entry.mover?]

/-- The pool agrees with what is on record. -/
structure Sound (record : List Entry) (pool : Pool) : Prop where
  slots : pool.free + pool.active.length = pool.config.capacity
  distinct : (pool.active.map ActiveQuery.id).Nodup
  returned (id : Nat) : record.countP (Entry.grants id) =
    record.countP (Entry.releases id) + (pool.phase? id).isSome.toNat
  cursors (id : Nat) : id ∈ pool.cursors ↔ pool.holdsCursor id
  deadlines (id : Nat) : id ∈ pool.deadlines ↔ pool.holdsCursor id
  closings (id : Nat) : record.countP (Entry.opensCursor id) =
    record.countP (Entry.closesCursor id) + (pool.holdsCursor id).toNat
  executing {before later : List Entry} {id : Nat} {sql : String} {parameters : List Value} :
    record = before ++ .submitted id sql parameters :: later →
      pool.phase? id = some .executing ∨ .finished id ∈ later
  isOpen : pool.isOpen = Entry.openAfter record
  openings {before later : List Entry} {id : Nat} :
    record = before ++ .opened id :: later → Entry.openAfter before = false
  calls : pool.calls = record.filterMap (Entry.call? pool.config)

namespace Sound

theorem new (config : PoolConfig) : Sound [] (.new config) where
  slots := rfl
  distinct := List.nodup_nil
  returned _ := rfl
  cursors _ := by simp [Pool.new, holdsCursor, phase?]
  deadlines _ := by simp [Pool.new, holdsCursor, phase?]
  closings _ := rfl
  executing split := by simp at split
  isOpen := rfl
  openings split := by simp at split
  calls := rfl

section Kept

variable {entries : List Entry} {after : Pool} (sound : Sound record pool)
  (ended : Performed pool entries after)
include sound ended

/-! The slots add up, since only one that asks takes a slot and only one that leaves returns it. -/

theorem slots_kept : after.free + after.active.length = after.config.capacity := by
  have slots := sound.slots
  cases ended with
  | granted _ spare =>
    simp only [granting, List.length_append, List.length_singleton]
    omega
  | released here =>
    have left := length_released sound.distinct here
    simp only [release]
    omega
  | idle | refused | interrupted | closed => exact slots
  | connected | opened | notOpened | cursorOpened | noCursor | submitted | finished =>
    simpa [start, submit, finish, noted, move_eq] using slots

theorem distinct_kept : (after.active.map ActiveQuery.id).Nodup := by
  have distinct := sound.distinct
  cases ended with
  | @granted id _ new =>
    have absent : id ∉ pool.active.map ActiveQuery.id := phaseAmong_eq_none.mp new
    rw [granting, List.map_append, List.nodup_append]
    simpa [distinct] using absent
  | released =>
    unfold release
    exact (List.filter_sublist.map ActiveQuery.id).nodup distinct
  | idle | refused | interrupted | closed => exact distinct
  | connected | opened | notOpened | cursorOpened | noCursor | submitted | finished =>
    simpa [start, submit, finish, noted, move_eq] using distinct

/-! What is known of each query is settled by how the incident concerns it. -/

theorem returned_kept (id : Nat) : (record ++ entries).countP (Entry.grants id) =
    (record ++ entries).countP (Entry.releases id) + (after.phase? id).isSome.toNat := by
  have returned := sound.returned id
  simp only [List.countP_append]
  cases ended.concern id with
  | aside phase _ _ quiet =>
    rw [phase, countP_of_quiet quiet fun _ grants => mover?_of_tells (.inl grants),
      countP_of_quiet quiet fun _ releases => mover?_of_tells (.inr (.inl releases))]
    exact returned
  | granted before now _ _ noted => simp_all [Entry.grants, Entry.releases]
  | moved before now _ _ _ slots =>
    rw [slots.1, slots.2, now]
    rw [before] at returned
    exact returned
  | released before now _ _ noted => simp_all [Entry.grants, Entry.releases]

theorem held_kept (id : Nat) : (id ∈ after.cursors ↔ after.holdsCursor id) ∧
    (id ∈ after.deadlines ↔ after.holdsCursor id) := by
  have cursors := sound.cursors id
  have deadlines := sound.deadlines id
  unfold holdsCursor at cursors deadlines ⊢
  cases ended.concern id with
  | aside phase cursor deadline =>
    rw [cursor, deadline, phase]
    exact ⟨cursors, deadlines⟩
  | moved before now _ cursor deadline =>
    rw [before] at cursors deadlines
    rw [now]
    exact ⟨cursor cursors, deadline deadlines⟩
  | granted before now cursor deadline | released before now cursor deadline =>
    -- Neither with its slot only just got nor on its way out does a query have a cursor.
    rw [before] at cursors deadlines
    rw [cursor, deadline, now]
    exact ⟨cursors, deadlines⟩

theorem closings_kept (id : Nat) : (record ++ entries).countP (Entry.opensCursor id) =
    (record ++ entries).countP (Entry.closesCursor id) + (after.holdsCursor id).toNat := by
  have closings := sound.closings id
  unfold holdsCursor at closings ⊢
  simp only [List.countP_append]
  cases ended.concern id with
  | aside phase _ _ quiet =>
    rw [phase, countP_of_quiet quiet fun _ opens => mover?_of_tells (.inr (.inr (.inl opens))),
      countP_of_quiet quiet fun _ closes => mover?_of_tells (.inr (.inr (.inr closes)))]
    exact closings
  | moved before now _ _ _ _ cursors =>
    rw [now]
    rw [before] at closings
    simp only [Option.any_some] at closings ⊢
    omega
  | granted before now _ _ noted | released before now _ _ noted =>
    simp_all [Entry.opensCursor, Entry.closesCursor, QueryPhase.holdsCursor]

theorem executing_kept {before later : List Entry} {id : Nat} {sql : String}
    {parameters : List Value}
    (split : record ++ entries = before ++ .submitted id sql parameters :: later) :
    after.phase? id = some .executing ∨ .finished id ∈ later := by
  rcases split_append split with ⟨earlier, known, rfl⟩ | ⟨middle, -, rfl⟩
  · rcases sound.executing known with running | finished
    · cases ended.concern id with
      | aside phase => exact .inl (phase.trans running)
      | moved was _ _ _ _ _ _ _ finishes =>
        -- A statement that was being carried out has ended.
        cases was.symm.trans running
        exact .inr (List.mem_append_right _ (finishes rfl))
      | granted was => cases was.symm.trans running
      | released was => cases was.symm.trans running
    · exact .inr (List.mem_append_left _ finished)
  · -- The statement was handed over just now.
    have told : .submitted id sql parameters ∈ middle ++ .submitted id sql parameters :: later := by
      simp
    cases ended.concern id with
    | aside _ _ _ quiet => exact absurd rfl (quiet _ told)
    | moved _ now _ _ _ _ _ submits =>
      rw [submits _ _ told] at now
      exact .inl now
    | granted _ _ _ _ noted | released _ _ _ _ noted => simp [noted] at told

/-! The connection is opened where it is not open. -/

theorem isOpen_kept : after.isOpen = Entry.openAfter (record ++ entries) := by
  have isOpen := sound.isOpen
  unfold Entry.openAfter at isOpen ⊢
  rw [List.foldl_append, ← isOpen]
  cases ended <;> simp_all [granting, start, submit, finish, release, noted, move_eq]

theorem openings_kept {before later : List Entry} {id : Nat}
    (split : record ++ entries = before ++ .opened id :: later) :
    Entry.openAfter before = false := by
  rcases split_append split with ⟨earlier, known, rfl⟩ | ⟨middle, rfl, noted⟩
  · exact sound.openings known
  · have isOpen := sound.isOpen
    cases ended <;> simp_all [List.singleton_eq_append_iff]

theorem calls_kept : after.calls = (record ++ entries).filterMap (Entry.call? after.config) := by
  have calls := sound.calls
  rw [List.filterMap_append]
  cases ended <;>
    simp_all [granting, start, submit, finish, release, Pool.noted, move_eq, Entry.call?]

theorem performed : Sound (record ++ entries) after where
  slots := sound.slots_kept ended
  distinct := sound.distinct_kept ended
  returned := sound.returned_kept ended
  cursors id := (sound.held_kept ended id).1
  deadlines id := (sound.held_kept ended id).2
  closings := sound.closings_kept ended
  executing := sound.executing_kept ended
  isOpen := sound.isOpen_kept ended
  openings := sound.openings_kept ended
  calls := sound.calls_kept ended

end Kept

theorem after (sound : Sound record pool) (incidents : List Incident) :
    Sound (record ++ pool.record incidents) (pool.after incidents) := by
  induction incidents generalizing record pool with
  | nil => simpa [Pool.record, Pool.after] using sound
  | cons incident incidents ih =>
    have next := ih (sound.performed (pool.performed incident))
    rwa [List.append_assoc] at next

end Sound

/-! ### Ways out -/

/-- A query that has a slot can always go on. -/
theorem exists_possible {phase : QueryPhase} (here : pool.phase? id = some phase) :
    ∃ incident : Incident, incident.stepOf? = some id ∧ pool.possible incident := by
  cases phase with
  | admitted => exact ⟨.connect id none, rfl, by simpa [possible] using here⟩
  | connected => exact ⟨.start id true, rfl, by simpa [possible] using here⟩
  | ready => exact ⟨.submit id "" [], rfl, by simpa [possible] using here⟩
  | executing => exact ⟨.finish id, rfl, by simpa [possible] using here⟩
  | ended => exact ⟨.release id, rfl, by simpa [possible] using here⟩

/-- A step of a query is not nothing to it. -/
theorem phase?_perform_ne {incident : Incident} (own : incident.stepOf? = some id)
    (can : pool.possible incident) : (pool.perform incident).phase? id ≠ pool.phase? id := by
  rw [perform, if_pos can]
  cases incident with
  | ask | interrupt | close => cases own
  | connect other failure =>
    cases own
    have here : pool.phase? id = some .admitted := by simpa [possible] using can
    rw [here]
    cases set : pool.isOpen <;> cases failure <;>
      simp_all [happen, connect, noted, move_eq, phase?_eq, phaseAmong_moved]
  | start other opened =>
    cases own
    have here : pool.phase? id = some .connected := by simpa [possible] using can
    rw [here]
    cases opened <;> simp_all [happen, start, move_eq, phase?_eq, phaseAmong_moved]
  | submit other sql parameters =>
    cases own
    have here : pool.phase? id = some .ready := by simpa [possible] using can
    rw [here]
    simp_all [happen, submit, noted, move_eq, phase?_eq, phaseAmong_moved]
  | finish other =>
    cases own
    have here : pool.phase? id = some .executing := by simpa [possible] using can
    rw [here]
    simp_all [happen, finish, noted, move_eq, phase?_eq, phaseAmong_moved]
  | release other =>
    cases own
    have here : pool.phase? id = some .ended := by simpa [possible] using can
    rw [here]
    simp [happen, release, phase?_eq, phaseAmong_released]

/-- Whatever the steps of a query come to, and whatever happens in between, it has given its slot
back once it has taken the steps that it had before it. -/
theorem released_of_stepsTaken {phase : QueryPhase} {incidents : List Incident}
    (here : pool.phase? id = some phase) (taken : phase.stepsLeft ≤ pool.stepsTaken id incidents) :
    .released id ∈ pool.record incidents := by
  -- Each of its steps leaves a query with fewer before it, and the last one is the return.
  induction incidents generalizing pool phase with
  | nil => cases phase <;> simp [stepsTaken, QueryPhase.stepsLeft] at taken
  | cons incident incidents ih =>
    rw [stepsTaken] at taken
    rw [Pool.record, List.mem_append]
    cases (pool.performed incident).concern id with
    | aside same =>
      -- It was not its step, so all of them lie ahead.
      have other : ¬ (incident.stepOf? = some id ∧ pool.possible incident) := fun step =>
        phase?_perform_ne step.1 step.2 same
      rw [if_neg other, Nat.zero_add] at taken
      exact .inr (ih (same.trans here) taken)
    | granted new => cases here.symm.trans new
    | moved before now fewer =>
      cases here.symm.trans before
      refine .inr (ih now ?_)
      split at taken <;> omega
    | released _ _ _ _ told =>
      rw [told]
      exact .inl List.mem_cons_self

/-! ### A query from beginning to end -/

theorem perform_eq {incident : Incident} (can : pool.possible incident) :
    pool.perform incident = pool.happen incident := if_pos can

theorem phase?_move_self {phase : QueryPhase} (here : pool.phase? id = some phase)
    (next : QueryPhase) : (pool.move id next).phase? id = some next := by
  simp [phase?_eq, move_eq, phaseAmong_moved here]

theorem perform_ask {free : Nat} (new : pool.phase? id = none) (spare : pool.free = free + 1) :
    pool.perform (.ask id) = pool.granting id free := by
  rw [perform_eq (by simpa [possible] using new)]
  simp [happen, acquire, spare, granting]

theorem phase?_granting (new : pool.phase? id = none) (free : Nat) :
    (pool.granting id free).phase? id = some .admitted := by
  simp [phase?_eq, granting, phaseAmong_granted new]

theorem phase?_interrupt (id : Nat) : (pool.interrupt id).phase? = pool.phase? := by
  unfold interrupt
  split <;> rfl

theorem perform_interrupt : pool.perform (.interrupt id) = pool.interrupt id := by
  by_cases set : id ∈ pool.deadlines
  · exact perform_eq (by simpa [possible] using set)
  · simp [perform, possible, interrupt, set]

theorem after_finish (here : pool.phase? id = some .executing) :
    pool.after [.finish id, .release id] = (pool.finish id).release id := by
  have ended : (pool.finish id).phase? id = some .ended :=
    @phase?_move_self (pool.noted .closeCursor) _ _ here .ended
  have first : pool.perform (.finish id) = pool.finish id :=
    perform_eq (by simpa [possible] using here)
  have second : (pool.finish id).perform (.release id) = (pool.finish id).release id :=
    perform_eq (by simpa [possible] using ended)
  simp [after, first, second]

/-- What remains of a query once the connection is open. -/
def errand (id : Nat) (sql : String) (parameters : List Value) (execution : Execution) :
    List Incident :=
  [.start id true, .submit id sql parameters] ++
    ((match execution with
      | .endless => [.interrupt id]
      | _ => []) ++ [.finish id, .release id])

theorem after_errand (here : pool.phase? id = some .connected) (sql : String)
    (parameters : List Value) (execution : Execution) :
    pool.after (errand id sql parameters execution) =
      ((pool.start id true).execute id sql parameters execution).2.release id := by
  have started : (pool.start id true).phase? id = some .ready := phase?_move_self here .ready
  have submitted : ((pool.start id true).submit id sql parameters).phase? id = some .executing :=
    @phase?_move_self ((pool.start id true).noted _) _ _ started .executing
  have first : pool.perform (.start id true) = pool.start id true :=
    perform_eq (by simpa [possible] using here)
  have second : (pool.start id true).perform (.submit id sql parameters) =
      (pool.start id true).submit id sql parameters :=
    perform_eq (by simpa [possible] using started)
  unfold errand execute
  rw [after, List.foldl_append]
  simp only [List.foldl_cons, List.foldl_nil, first, second]
  cases execution with
  | endless =>
    -- The deadline only tells the engine to stop; the query is where it was.
    have running := submitted
    rw [← phase?_interrupt id] at running
    simpa [after, perform_interrupt] using after_finish running
  | rows | failed | interrupted | crashed => exact after_finish submitted

theorem query?_of_mem_errand {sql : String} {parameters : List Value} {execution : Execution}
    {incident : Incident} (member : incident ∈ errand id sql parameters execution) :
    incident.query? = some id := by
  unfold errand at member
  cases execution <;> simp at member <;>
    rcases member with rfl | rfl | rfl | rfl | rfl <;> rfl

/-- The ways in which a query that is run alone can end. -/
inductive Queried (pool : Pool) (engine : Engine) (id : Nat) (sql : String)
    (parameters : List Value) : Except Failure (List Row) × Pool × Engine → Prop
  | refused (taken : pool.free = 0) :
      Queried pool engine id sql parameters
        (.error (.poolTimeout (acquireMessage pool.config)), pool, engine)
  | unconnected {free : Nat} {message : String} {rest : Engine} (spare : pool.free = free + 1)
      (unset : pool.isOpen = false) :
      Queried pool engine id sql parameters
        (.error (.query (openMessage pool.config message)),
          ((pool.granting id free).connect id (some message)).2.release id, rest)
  | carriedOut {free : Nat} {failure : Option String} {execution : Execution}
      {result : Except Failure (List Row)} {after : Pool} {rest : Engine}
      (spare : pool.free = free + 1) (opens : pool.isOpen = true ∨ failure = none)
      (carried : (((pool.granting id free).connect id failure).2.start id true).execute id sql
        parameters execution = (result, after)) :
      Queried pool engine id sql parameters (result, after.release id, rest)

theorem queried (pool : Pool) (engine : Engine) (id : Nat) (sql : String)
    (parameters : List Value) :
    Queried pool engine id sql parameters (pool.query engine id sql parameters) := by
  cases spare : pool.free with
  | zero => simpa [query, acquire, spare] using .refused spare
  | succ free =>
    have asked : pool.acquire id = (true, pool.granting id free) := by
      simp [acquire, spare, granting]
    unfold query
    rw [asked]
    cases set : pool.isOpen with
    | true =>
      have connected : (pool.granting id free).connect id none =
          (.ok (), ((pool.granting id free).connect id none).2) := by
        simp [connect, granting, set]
      have same : (pool.granting id free).isOpen = true := set
      simp only [same, if_true]
      rw [connected]
      exact .carriedOut spare (.inl set) rfl
    | false =>
      have same : (pool.granting id free).isOpen = false := set
      simp only [same, Bool.false_eq_true, if_false]
      cases failure : engine.nextConnect.1 with
      | none =>
        have connected : (pool.granting id free).connect id none =
            (.ok (), ((pool.granting id free).connect id none).2) := by
          simp [connect, granting, set]
        rw [connected]
        exact .carriedOut spare (.inr rfl) rfl
      | some message =>
        have refused : (pool.granting id free).connect id (some message) =
            (.error message, ((pool.granting id free).connect id (some message)).2) := by
          simp [connect, granting, set]
        have config : ((pool.granting id free).connect id (some message)).2.config = pool.config := by
          simp [connect, granting, set, noted, move_eq]
        rw [refused]
        dsimp only
        rw [config]
        exact .unconnected spare set

/-- A query that is run alone is a list of incidents like any other. -/
theorem exists_after_query (new : pool.phase? id = none) (engine : Engine) (sql : String)
    (parameters : List Value) :
    ∃ incidents : List Incident, (∀ incident ∈ incidents, incident.query? = some id) ∧
      (pool.query engine id sql parameters).2.1 = pool.after incidents := by
  have ended := queried pool engine id sql parameters
  generalize pool.query engine id sql parameters = outcome at ended ⊢
  cases ended with
  | refused => exact ⟨[], nofun, rfl⟩
  | @unconnected free message _ spare unset =>
    have asked := perform_ask new spare
    have here := phase?_granting new free
    have connected : (pool.granting id free).perform (.connect id (some message)) =
        ((pool.granting id free).connect id (some message)).2 :=
      perform_eq (by simpa [possible] using here)
    have closing : ((pool.granting id free).connect id (some message)).2.phase? id = some .ended := by
      have same : (pool.granting id free).isOpen = false := unset
      simp only [connect, same, Bool.false_eq_true, if_false]
      exact @phase?_move_self ((pool.granting id free).noted _) _ _ here .ended
    refine ⟨[.ask id, .connect id (some message), .release id], by simp [Incident.query?,
      Incident.stepOf?], ?_⟩
    have released : ((pool.granting id free).connect id (some message)).2.perform (.release id) =
        ((pool.granting id free).connect id (some message)).2.happen (.release id) :=
      perform_eq (by simpa [possible] using closing)
    simp only [after, List.foldl_cons, List.foldl_nil, asked, connected, released, happen]
  | @carriedOut free failure execution _ _ _ spare opens carried =>
    have asked := perform_ask new spare
    have here := phase?_granting new free
    have connected : (pool.granting id free).perform (.connect id failure) =
        ((pool.granting id free).connect id failure).2 :=
      perform_eq (by simpa [possible] using here)
    have ready : ((pool.granting id free).connect id failure).2.phase? id = some .connected := by
      rcases opens with set | rfl
      · have same : (pool.granting id free).isOpen = true := set
        simp only [connect, same, if_true]
        exact phase?_move_self here .connected
      · cases same : (pool.granting id free).isOpen <;>
          simp [connect, same, noted, move_eq, phase?_eq, phaseAmong_moved here]
    refine ⟨.ask id :: .connect id failure :: errand id sql parameters execution, ?_, ?_⟩
    · intro incident member
      simp only [List.mem_cons] at member
      rcases member with rfl | rfl | member
      · rfl
      · rfl
      · exact query?_of_mem_errand member
    · rw [after, List.foldl_cons, List.foldl_cons, asked, connected]
      have errand := after_errand ready sql parameters execution
      rw [carried] at errand
      exact errand.symm

/-! ### The books -/

theorem perform_ask_of_taken (taken : pool.free = 0) : pool.perform (.ask id) = pool := by
  by_cases new : pool.phase? id = none <;> simp [perform, possible, new, happen, acquire, taken]

theorem config_after (incidents : List Incident) : (pool.after incidents).config = pool.config := by
  induction incidents generalizing pool with
  | nil => rfl
  | cons incident incidents ih =>
    have same : (pool.perform incident).config = pool.config := by
      have ended := pool.performed incident
      generalize pool.entries incident = entries, pool.perform incident = next at ended ⊢
      cases ended <;> simp [granting, start, submit, finish, release, noted, move_eq]
    exact ih.trans same

theorem count_ids (distinct : (pool.active.map ActiveQuery.id).Nodup) (id : Nat) :
    (pool.active.map ActiveQuery.id).count id = (pool.phase? id).isSome.toNat := by
  cases here : pool.phase? id with
  | none => exact List.count_eq_zero_of_not_mem (phaseAmong_eq_none.mp here)
  | some phase =>
    refine List.count_eq_one_of_mem distinct ?_
    by_contra absent
    cases here.symm.trans (phaseAmong_eq_none.mpr absent)

/-- A connection that has been opened is open until the record tells that it was closed. -/
theorem closed_of_openAfter {before middle : List Entry}
    (shut : Entry.openAfter (before ++ .opened id :: middle) = false) : .closed ∈ middle := by
  unfold Entry.openAfter at shut
  rw [List.foldl_append, List.foldl_cons] at shut
  -- The opening starts the reading over, whatever stood before it.
  dsimp only at shut
  induction middle with
  | nil => cases shut
  | cons entry middle ih =>
    cases entry with
    | closed => exact List.mem_cons_self
    | granted | refused | opened | notOpened | cursorOpened | noCursor | submitted | interrupted
    | finished | released => exact List.mem_cons_of_mem _ (ih shut)

/-- What the books of a pool say at any moment. -/
structure Bookkeeping (config : PoolConfig) (record : List Entry) (pool : Pool) : Prop where
  /-- The slots that are free and the queries on their way add up. -/
  slots : ((pool.free + pool.active.length : Nat) : Int) = max 1 config.size
  atMost : (pool.active.length : Int) ≤ max 1 config.size
  /-- Those on their way have got a slot once more than they gave one back. -/
  onTheirWay : (pool.active.map ActiveQuery.id).Nodup ∧ ∀ id,
    record.countP (Entry.grants id) =
      record.countP (Entry.releases id) + (pool.active.map ActiveQuery.id).count id
  /-- Whoever has a slot can go on, and has given it back after five steps at the latest, whatever
  these come to and whatever happens in between. -/
  wayOut : ∀ id ∈ pool.active.map ActiveQuery.id,
    (∃ incident : Incident, incident.stepOf? = some id ∧ pool.possible incident) ∧
      ∀ incidents, 5 ≤ pool.stepsTaken id incidents → .released id ∈ pool.record incidents
  /-- A cursor is open and its deadline set for as long as its query is ready or executing. -/
  cursors (id : Nat) : (id ∈ pool.cursors ↔ pool.holdsCursor id) ∧
    (id ∈ pool.deadlines ↔ pool.holdsCursor id) ∧
      record.countP (Entry.opensCursor id) =
        record.countP (Entry.closesCursor id) + (pool.holdsCursor id).toNat
  /-- A statement is being carried out, or its cursor was closed after it. -/
  statements (before later : List Entry) (id : Nat) (sql : String) (parameters : List Value) :
    record = before ++ .submitted id sql parameters :: later →
      pool.phase? id = some .executing ∨ .finished id ∈ later
  /-- Without a free slot a query is told so and changes nothing. -/
  refused (engine : Engine) (id : Nat) (sql : String) (parameters : List Value) : pool.free = 0 →
    pool.perform (.ask id) = pool ∧ pool.query engine id sql parameters =
      (.error (.poolTimeout (acquireMessage config)), pool, engine)
  /-- Between two openings of the connection it was closed. -/
  openings (before middle later : List Entry) (id other : Nat) :
    record = before ++ .opened id :: (middle ++ .opened other :: later) → .closed ∈ middle
  /-- Where the connection is not open, every query that comes to it asks the engine to open it, and
  it is open afterwards exactly if that did not fail. -/
  connects (id : Nat) (failure : Option String) :
    pool.phase? id = some .admitted → pool.isOpen = false →
      (pool.perform (.connect id failure)).isOpen = failure.isNone ∧
        (pool.perform (.connect id failure)).calls =
          pool.calls ++ [.connect config.path config.opensReadOnly]
  /-- The engine was asked for what is on record and for nothing else. -/
  calls : pool.calls = record.filterMap (Entry.call? config)
  /-- A query that is run alone is a list of incidents like any other. -/
  alone (engine : Engine) (id : Nat) (sql : String) (parameters : List Value) :
    pool.phase? id = none → ∃ incidents : List Incident,
      (∀ incident ∈ incidents, incident.query? = some id) ∧
        (pool.query engine id sql parameters).2.1 = pool.after incidents

/-- The books of a pool are right at any moment, whatever happens to it. -/
theorem bookkeeping (config : PoolConfig) (incidents : List Incident) :
    Bookkeeping config ((new config).record incidents) ((new config).after incidents) := by
  have sound := (Sound.new config).after incidents
  have same : ((new config).after incidents).config = config := config_after incidents
  rw [List.nil_append] at sound
  generalize (new config).record incidents = record, (new config).after incidents = pool at *
  subst same
  have slots : ((pool.free + pool.active.length : Nat) : Int) = max 1 pool.config.size := by
    rw [sound.slots, PoolConfig.capacity]
    omega
  constructor
  case slots => exact slots
  case atMost => omega
  case onTheirWay =>
    refine ⟨sound.distinct, fun id => ?_⟩
    rw [count_ids sound.distinct]
    exact sound.returned id
  case wayOut =>
    intro id member
    obtain ⟨phase, here⟩ : ∃ phase, pool.phase? id = some phase := by
      by_contra absent
      refine phaseAmong_eq_none.mp (Option.eq_none_iff_forall_ne_some.mpr ?_) member
      exact fun phase here => absent ⟨phase, here⟩
    refine ⟨exists_possible here, fun incidents taken => released_of_stepsTaken here ?_⟩
    have bound : phase.stepsLeft ≤ 5 := by cases phase <;> decide
    omega
  case cursors => exact fun id => ⟨sound.cursors id, sound.deadlines id, sound.closings id⟩
  case statements => exact fun _ _ _ _ _ split => sound.executing split
  case refused =>
    intro engine id sql parameters taken
    exact ⟨perform_ask_of_taken taken, by simp [query, acquire, taken]⟩
  case openings =>
    intro before middle later id other split
    have shut := @sound.openings (before ++ .opened id :: middle) later other
    rw [split, List.append_assoc, List.cons_append] at shut
    exact closed_of_openAfter (shut rfl)
  case connects =>
    intro id failure here unset
    rw [perform_eq (by simpa [possible] using here)]
    cases failure <;> simp [happen, connect, unset, noted, move_eq]
  case calls => exact sound.calls
  case alone => exact fun engine id sql parameters new => exists_after_query new engine sql parameters

end

end Pool

end DomainScout
