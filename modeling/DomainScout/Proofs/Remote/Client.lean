import DomainScout.Remote.Client
import DomainScout.Proofs.Schedule.Agenda
import DomainScout.Proofs.Remote.Attempt

/-!
# Runs of a client

A run is a list of turns. At a turn the earliest event happens, and with it one attempt begins at
most: that of the call that gets a slot. The attempts that begin along a run are kept in a record,
which tells how many slots the client has given and what it has sent.

Every event takes more work from a client than it leads to, so running a client empties its agenda.
As long as there is room for all calls at once, nobody waits for a slot.

Main statements: `after_turns`, what every turn preserves holds at the end of a run, and
`agenda_run`.
-/
namespace DomainScout.Remote

/-- The call that an event belongs to. -/
def ClientEvent.call : ClientEvent → Call
  | .arrive call | .ended call _ => call

@[simp] theorem ClientEvent.call_arrive (call : Call) : (arrive call).call = call := rfl

@[simp] theorem ClientEvent.call_ended (call : Call) (outcome : Outcome) :
    (ended call outcome).call = call := rfl

/-- An attempt that has begun. -/
structure Begun where
  call : Call
  begunAt : Nat
  /-- What comes of it if it has all the time it needs. -/
  reply : Reply
  endsAt : Nat
  outcome : Outcome
  sent : List Sent

namespace Client

variable {σ : Type}

/-- The attempt that a call begins now. -/
def beginning (serve : Server σ) (client : Client σ) (call : Call) : Begun :=
  let attempt := call.plan.attempt serve client.server client.now
  { call
    begunAt := client.now
    reply := call.plan.reply serve client.server
    endsAt := attempt.endsAt
    outcome := attempt.outcome
    sent := attempt.sent }

/-- The attempt that begins with an event. -/
def begun? (serve : Server σ) (client : Client σ) : ClientEvent → Option Begun
  | .arrive call => if (client.slots.enter call).1 then some (client.beginning serve call) else none
  | .ended _ _ => client.slots.leave.1.map (client.beginning serve)

/-- The earliest event, and the client at the moment when it happens. -/
def turn? (client : Client σ) : Option (ClientEvent × Client σ) :=
  client.agenda.next?.map fun (timed, agenda) =>
    (timed.item, { client with agenda, now := max client.now timed.due })

/-- An event happens that is due no later than all others. Of those due at the same moment it may be
any. -/
inductive Turn (client : Client σ) : ClientEvent → Client σ → Prop
  | next {before after : Agenda ClientEvent} {due : Nat} {event : ClientEvent}
      (agenda : client.agenda = before ++ ⟨due, event⟩ :: after)
      (first : ∀ other ∈ before ++ after, due ≤ other.due) :
      Turn client event { client with agenda := before ++ after, now := max client.now due }

/-- The attempts that begin with the next events, at most some number of them. -/
def begunFor (serve : Server σ) : Nat → Client σ → List Begun
  | 0, _ => []
  | n + 1, client =>
    match client.turn? with
    | none => []
    | some (event, turned) =>
      (turned.begun? serve event).toList ++ begunFor serve n (step serve turned event)

/-- The attempts that begin until nothing is left to happen. -/
def begun (serve : Server σ) (client : Client σ) : List Begun := begunFor serve client.work client

section Turns

variable {serve : Server σ} {client turned : Client σ} {event : ClientEvent}

theorem split_of_turn? (turn : client.turn? = some (event, turned)) :
    ∃ before due after, client.agenda = before ++ ⟨due, event⟩ :: after ∧
      turned = { client with agenda := before ++ after, now := max client.now due } ∧
        ∀ other ∈ before ++ after, due ≤ other.due := by
  simp only [turn?, Option.map_eq_some_iff, Prod.mk.injEq] at turn
  obtain ⟨⟨⟨due, item⟩, rest⟩, next, rfl, rfl⟩ := turn
  obtain ⟨before, after, agenda, rfl, strictly, weakly⟩ := Agenda.split_of_next? next
  refine ⟨before, due, after, agenda, rfl, ?_⟩
  intro other member
  rcases List.mem_append.mp member with ahead | behind
  · exact Nat.le_of_lt (strictly other ahead)
  · exact weakly other behind

theorem turn_of_turn? (turn : client.turn? = some (event, turned)) : client.Turn event turned := by
  obtain ⟨before, due, after, agenda, rfl, first⟩ := split_of_turn? turn
  exact .next agenda first

theorem agenda_eq_nil_of_turn? (nothing : client.turn? = none) : client.agenda = [] :=
  Agenda.eq_nil_of_next? (Option.map_eq_none_iff.mp nothing)

theorem runFor_succ (n : Nat) : runFor serve (n + 1) client =
    match client.turn? with
    | none => client
    | some (event, turned) => runFor serve n (step serve turned event) := by
  rw [runFor, advance?, turn?]
  cases client.agenda.next? <;> rfl

end Turns

/-! ### What events do -/

section Events

variable (serve : Server σ) (client : Client σ)

@[simp] theorem agenda_start (call : Call) : (start serve client call).agenda = client.agenda ++
    [⟨(client.beginning serve call).endsAt, .ended call (client.beginning serve call).outcome⟩] :=
  rfl

@[simp] theorem slots_start (call : Call) : (start serve client call).slots = client.slots := rfl

@[simp] theorem now_start (call : Call) : (start serve client call).now = client.now := rfl

@[simp] theorem finished_start (call : Call) :
    (start serve client call).finished = client.finished := rfl

@[simp] theorem granted_start (call : Call) :
    (start serve client call).granted = client.granted + 1 := rfl

@[simp] theorem sent_start (call : Call) :
    (start serve client call).sent = client.sent ++ (client.beginning serve call).sent := rfl

end Events

/-- What follows the attempt of a call: the call is over, or it comes again later. -/
def conclude (client : Client σ) (call : Call) (outcome : Outcome) : Client σ :=
  match call.plan.verdict call.attempt outcome with
  | .final => { client with finished := client.finished ++ [⟨call.id, client.now, outcome⟩] }
  | .retry wait =>
    { client with
      agenda := client.agenda.enter (client.now + wait)
        (.arrive { call with attempt := call.attempt + 1 }) }

section Conclusion

variable (client : Client σ) (call : Call) (outcome : Outcome)

@[simp] theorem slots_conclude : (client.conclude call outcome).slots = client.slots := by
  unfold conclude
  split <;> rfl

@[simp] theorem now_conclude : (client.conclude call outcome).now = client.now := by
  unfold conclude
  split <;> rfl

@[simp] theorem granted_conclude : (client.conclude call outcome).granted = client.granted := by
  unfold conclude
  split <;> rfl

@[simp] theorem sent_conclude : (client.conclude call outcome).sent = client.sent := by
  unfold conclude
  split <;> rfl

end Conclusion

/-- What an event can do, and which attempt begins with it. -/
inductive Stepped (serve : Server σ) (client : Client σ) :
    ClientEvent → Option Begun → Client σ → Prop
  | begins {call : Call} (nobody : client.slots.waiting = [])
      (free : client.slots.taken < client.slots.capacity) :
      Stepped serve client (.arrive call) (some (client.beginning serve call))
        (start serve
          { client with slots := { client.slots with taken := client.slots.taken + 1 } } call)
  | waits {call : Call}
      (full : ¬ (client.slots.taken < client.slots.capacity ∧ client.slots.waiting = [])) :
      Stepped serve client (.arrive call) none
        { client with slots := { client.slots with waiting := client.slots.waiting ++ [call] } }
  | frees {call : Call} {outcome : Outcome} (nobody : client.slots.waiting = []) :
      Stepped serve client (.ended call outcome) none
        (conclude { client with slots := { client.slots with taken := client.slots.taken - 1 } }
          call outcome)
  | hands {call next : Call} {outcome : Outcome} {rest : List Call}
      (first : client.slots.waiting = next :: rest) :
      Stepped serve client (.ended call outcome) (some (client.beginning serve next))
        (conclude (start serve { client with slots := { client.slots with waiting := rest } } next)
          call outcome)

theorem stepped (serve : Server σ) (client : Client σ) (event : ClientEvent) :
    Stepped serve client event (client.begun? serve event) (step serve client event) := by
  cases event with
  | arrive call =>
    by_cases room : client.slots.taken < client.slots.capacity ∧ client.slots.waiting.isEmpty
    · simp only [begun?, step, Slots.enter, if_pos room]
      exact .begins (List.isEmpty_iff.mp room.2) room.1
    · simp only [begun?, step, Slots.enter, if_neg room]
      exact .waits (by rwa [← List.isEmpty_iff])
  | ended call outcome =>
    cases queue : client.slots.waiting with
    | nil =>
      simp only [begun?, step, release, Slots.leave, queue]
      exact queue ▸ .frees queue
    | cons next rest =>
      simp only [begun?, step, release, Slots.leave, queue]
      exact .hands queue

theorem Stepped.eq_step {serve : Server σ} {client after : Client σ} {event : ClientEvent}
    {begun : Option Begun} (stepped : Stepped serve client event begun after) :
    after = step serve client event := by
  cases stepped with
  | begins nobody free => simp [step, Slots.enter, nobody, free]
  | waits full => simp [step, Slots.enter, full]
  | frees nobody =>
    simp only [step, release, Slots.leave, nobody]
    rfl
  | hands first =>
    simp only [step, release, Slots.leave, first]
    rfl

/-- What every turn preserves, the attempt that begins with it put on record, holds along a run. -/
theorem after_turns {serve : Server σ} {P : Client σ → List Begun → Prop}
    (kept : ∀ {client log event turned begun after}, P client log →
      client.turn? = some (event, turned) → Stepped serve turned event begun after →
        P after (log ++ begun.toList))
    {client : Client σ} {log : List Begun} (holds : P client log) (n : Nat) :
    P (runFor serve n client) (log ++ begunFor serve n client) := by
  induction n generalizing client log with
  | zero => simpa [runFor, begunFor] using holds
  | succ n ih =>
    rw [runFor_succ, begunFor]
    cases turn : client.turn? with
    | none => simpa using holds
    | some next =>
      rw [← List.append_assoc]
      exact ih (kept holds turn (stepped serve next.2 next.1))

/-! ### The record of attempts -/

/-- Every attempt on record got a slot and sent what the record tells. -/
structure Recorded (before : Client σ) (client : Client σ) (log : List Begun) : Prop where
  granted : client.granted = before.granted + log.length
  sent : client.sent = before.sent ++ log.flatMap Begun.sent

variable {serve : Server σ} {client : Client σ}

theorem recorded (n : Nat) : Recorded client (runFor serve n client) (begunFor serve n client) := by
  have start : Recorded client client [] := ⟨rfl, by simp⟩
  refine after_turns ?_ start n
  intro current log event turned begun after recorded turn stepped
  obtain ⟨before, due, behind, -, rfl, -⟩ := split_of_turn? turn
  have granted := recorded.granted
  have sent := recorded.sent
  cases stepped with
  | begins | waits | frees | hands =>
    constructor
    · simp [granted, Nat.add_assoc]
    · simp [sent, beginning]

/-! ### The work of a client -/

/-- A bound on the events that an event can still lead to, itself included. -/
def weight : ClientEvent → Nat
  | .arrive call => call.work + 1
  | .ended call _ => call.work

theorem weight_pos (event : ClientEvent) : 0 < weight event := by
  cases event <;> simp [weight, Call.work]

theorem work_eq (client : Client σ) :
    client.work = client.agenda.total weight + (client.slots.waiting.map Call.work).sum := by
  have calls (calls : List Call) :
      calls.foldr (fun call rest => call.work + rest) 0 = (calls.map Call.work).sum := by
    induction calls with
    | nil => rfl
    | cons call calls ih => simp [ih]
  rw [work, calls]
  congr 2

theorem work_conclude (client : Client σ) (call : Call) (outcome : Outcome) :
    (client.conclude call outcome).work < client.work + call.work := by
  unfold conclude
  split
  next => simp [work_eq, Call.work]
  next wait verdict =>
    -- There is a next attempt only before the last one, so the call has less to do.
    have again : call.attempt < call.plan.attempts := by
      unfold Plan.verdict at verdict
      split at verdict
      next may => exact of_decide_eq_true (Bool.and_eq_true_iff.mp may).2
      next => cases verdict
    simp only [work_eq, Agenda.total_enter, weight, Call.work]
    omega

theorem work_of_stepped {event : ClientEvent} {begun : Option Begun} {after : Client σ}
    (stepped : Stepped serve client event begun after) : after.work < client.work + weight event := by
  cases stepped with
  | begins nobody free =>
    -- An attempt under way weighs less than the arrival that led to it.
    simp [work_eq, weight, Agenda.total_append]
    omega
  | waits =>
    simp [work_eq, weight]
    omega
  | @frees call outcome nobody =>
    apply Nat.lt_of_lt_of_eq (work_conclude _ call outcome)
    simp [work_eq, weight]
  | @hands call next outcome rest first =>
    apply Nat.lt_of_lt_of_eq (work_conclude _ call outcome)
    simp [work_eq, weight, first, Agenda.total_append]
    omega

theorem Turn.work_eq {event : ClientEvent} {turned : Client σ} (turn : client.Turn event turned) :
    client.work = turned.work + weight event := by
  cases turn with
  | next agenda first =>
    simp [Client.work_eq, agenda, Agenda.total_append]
    omega

theorem agenda_runFor {n : Nat} (enough : client.work ≤ n) :
    (runFor serve n client).agenda = [] := by
  induction n generalizing client with
  | zero =>
    cases turn : client.turn? with
    | none => exact agenda_eq_nil_of_turn? turn
    | some next =>
      have before := (turn_of_turn? turn).work_eq
      have positive := weight_pos next.1
      omega
  | succ n ih =>
    rw [runFor_succ]
    cases turn : client.turn? with
    | none => exact agenda_eq_nil_of_turn? turn
    | some next =>
      have before := (turn_of_turn? turn).work_eq
      have less := work_of_stepped (stepped serve next.2 next.1)
      apply ih
      omega

/-- Running a client empties its agenda. -/
theorem agenda_run (serve : Server σ) (client : Client σ) : (run serve client).agenda = [] :=
  agenda_runFor (Nat.le_refl _)

/-! ### Room for everybody -/

/-- How many calls are on their way to an attempt. -/
def arriving (client : Client σ) : Nat :=
  client.agenda.countP fun timed => match timed.item with
    | .arrive _ => true
    | .ended _ _ => false

/-- How many attempts are on their way. -/
def trying (client : Client σ) : Nat :=
  client.agenda.countP fun timed => match timed.item with
    | .arrive _ => false
    | .ended _ _ => true

/-- Nobody waits, and there is a slot for each call. -/
structure Roomy (client : Client σ) : Prop where
  nobody : client.slots.waiting = []
  taken : client.trying ≤ client.slots.taken
  room : client.slots.taken + client.arriving ≤ client.slots.capacity

theorem Roomy.conclude {call : Call} {outcome : Outcome} (roomy : client.Roomy)
    (spare : client.slots.taken + client.arriving < client.slots.capacity) :
    (client.conclude call outcome).Roomy := by
  obtain ⟨nobody, taken, room⟩ := roomy
  simp only [trying, arriving] at taken spare room
  unfold Client.conclude
  constructor <;> split <;> simp [trying, arriving, Agenda.enter, nobody] <;> omega

theorem Roomy.next {event : ClientEvent} {turned after : Client σ} {begun : Option Begun}
    (roomy : client.Roomy) (turn : client.turn? = some (event, turned))
    (stepped : Stepped serve turned event begun after) : after.Roomy := by
  obtain ⟨before, due, behind, agenda, rfl, -⟩ := split_of_turn? turn
  obtain ⟨nobody, taken, room⟩ := roomy
  simp only [trying, arriving, agenda, List.countP_append, List.countP_cons] at taken room
  cases stepped with
  | begins =>
    constructor <;> simp [trying, arriving, nobody] at * <;> omega
  | waits full =>
    -- With room for everybody there is a slot for the call that has come.
    simp [nobody] at full room
    omega
  | frees =>
    apply Roomy.conclude
    · constructor <;> simp [trying, arriving, nobody] at * <;> omega
    · simp [arriving] at *
      omega
  | hands first =>
    rw [nobody] at first
    cases first

theorem Roomy.runFor (roomy : client.Roomy) (n : Nat) : (runFor serve n client).Roomy :=
  @after_turns _ serve (fun client _ => client.Roomy) Roomy.next client [] roomy n

/-! ### Whose attempts begin -/

/-- Everything that a client knows of belongs to calls with a property. -/
structure Concerns (client : Client σ) (P : Call → Prop) : Prop where
  pending : ∀ timed ∈ client.agenda, P timed.item.call
  waiting : ∀ call ∈ client.slots.waiting, P call

variable {P : Call → Prop}

theorem Concerns.start {call : Call} (concerns : client.Concerns P) (own : P call) :
    (start serve client call).Concerns P := by
  refine ⟨?_, concerns.waiting⟩
  simpa [or_imp, forall_and] using ⟨concerns.pending, own⟩

theorem Concerns.conclude {call : Call} {outcome : Outcome} (concerns : client.Concerns P)
    (again : P { call with attempt := call.attempt + 1 }) :
    (client.conclude call outcome).Concerns P := by
  refine ⟨?_, (slots_conclude client call outcome).symm ▸ concerns.waiting⟩
  unfold Client.conclude
  split
  · exact concerns.pending
  · simpa [Agenda.enter, or_imp, forall_and, again] using concerns.pending

theorem Concerns.next {event : ClientEvent} {turned after : Client σ} {begun : Option Begun}
    (again : ∀ call, P call → P { call with attempt := call.attempt + 1 })
    (concerns : client.Concerns P) (turn : client.turn? = some (event, turned))
    (stepped : Stepped serve turned event begun after) :
    after.Concerns P ∧ ∀ begins ∈ begun.toList, P begins.call := by
  obtain ⟨before, due, behind, agenda, rfl, -⟩ := split_of_turn? turn
  obtain ⟨pending, waiting⟩ := concerns
  simp only [agenda, List.forall_mem_append, List.forall_mem_cons] at pending
  obtain ⟨early, here, late⟩ := pending
  have rest : ∀ timed ∈ before ++ behind, P timed.item.call := List.forall_mem_append.mpr ⟨early, late⟩
  cases stepped with
  | begins => exact ⟨Concerns.start ⟨rest, waiting⟩ here, by simpa [beginning] using here⟩
  | waits => exact ⟨⟨rest, by simpa [or_imp, forall_and] using ⟨waiting, here⟩⟩, by simp⟩
  | frees => exact ⟨Concerns.conclude ⟨rest, waiting⟩ (again _ here), by simp⟩
  | @hands _ other _ others first =>
    have queue : ∀ call ∈ other :: others, P call := first ▸ waiting
    rw [List.forall_mem_cons] at queue
    refine ⟨Concerns.conclude (Concerns.start ⟨rest, queue.2⟩ queue.1) (again _ here), ?_⟩
    simpa [beginning] using queue.1

/-- Whatever holds of the calls that a client knows of holds of the attempts that begin. -/
theorem begunFor_of_concerns (again : ∀ call, P call → P { call with attempt := call.attempt + 1 })
    (concerns : client.Concerns P) (n : Nat) : ∀ begun ∈ begunFor serve n client, P begun.call := by
  have along : ∀ n, (Client.runFor serve n client).Concerns P ∧
      ∀ begun ∈ [] ++ begunFor serve n client, P begun.call := by
    refine after_turns (P := fun client log => client.Concerns P ∧ ∀ begun ∈ log, P begun.call)
      ?_ ⟨concerns, by simp⟩
    intro current log event turned begun after known turn stepped
    obtain ⟨concerns, begins⟩ := Concerns.next again known.1 turn stepped
    exact ⟨concerns, List.forall_mem_append.mpr ⟨known.2, begins⟩⟩
  exact (along n).2

end Client

end DomainScout.Remote
