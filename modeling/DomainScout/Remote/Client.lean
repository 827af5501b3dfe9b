import DomainScout.Remote.Plan
import DomainScout.Remote.Slots
import DomainScout.Schedule.Agenda

/-!
# Clients

A client makes any number of calls at a time. A call takes a slot for each attempt and gives it
back when the attempt ends; between attempts it holds none. The deadline of an attempt runs from
the moment the slot is given.

A client is a state that changes with one event after the other; running it means taking the
earliest event until none is left.
-/
namespace DomainScout.Remote

/-- A call: which one it is, what it sends, and the number of its attempt. -/
structure Call where
  id : Nat
  plan : Plan
  attempt : Nat

/-- A bound on the events that a call can still cause from its attempt on. -/
def Call.work (call : Call) : Nat := 2 * (call.plan.attempts + 1 - call.attempt) + 1

/-- What can happen to a client. -/
inductive ClientEvent where
  /-- A call wants to start its attempt. -/
  | arrive (call : Call)
  /-- The attempt of a call ends. -/
  | ended (call : Call) (outcome : Outcome)

/-- How a call ended, and when. -/
structure Finished where
  id : Nat
  finishedAt : Nat
  outcome : Outcome

/-- A client of a remote service. -/
structure Client (σ : Type) where
  now : Nat
  server : σ
  slots : Slots Call
  agenda : Agenda ClientEvent
  /-- How many attempts were given a slot. -/
  granted : Nat
  sent : List Sent
  finished : List Finished

namespace Client

variable {σ : Type}

/-- A client that has done nothing yet. -/
def new (server : σ) (capacity : Nat) : Client σ := ⟨0, server, .free capacity, [], 0, [], []⟩

/-- Start the attempt of a call that has a slot. -/
def start (serve : Server σ) (client : Client σ) (call : Call) : Client σ :=
  let attempt := call.plan.attempt serve client.server client.now
  { client with
    server := attempt.server
    sent := client.sent ++ attempt.sent
    granted := client.granted + 1
    agenda := client.agenda.enter attempt.endsAt (.ended call attempt.outcome) }

/-- Give back a slot and start who waits for it. -/
def release (serve : Server σ) (client : Client σ) : Client σ :=
  let (next, slots) := client.slots.leave
  let client := { client with slots }
  match next with
  | some call => start serve client call
  | none => client

/-- What an event does. -/
def step (serve : Server σ) (client : Client σ) : ClientEvent → Client σ
  | .arrive call =>
    let (given, slots) := client.slots.enter call
    let client := { client with slots }
    if given then start serve client call else client
  | .ended call outcome =>
    let client := release serve client
    match call.plan.verdict call.attempt outcome with
    | .final =>
      { client with finished := client.finished ++ [⟨call.id, client.now, outcome⟩] }
    | .retry wait =>
      { client with
        agenda := client.agenda.enter (client.now + wait)
          (.arrive { call with attempt := call.attempt + 1 }) }

/-- Let the earliest event happen. -/
def advance? (serve : Server σ) (client : Client σ) : Option (Client σ) :=
  client.agenda.next?.map fun (timed, agenda) =>
    step serve { client with agenda, now := max client.now timed.due } timed.item

/-- How many events can still happen. -/
def work (client : Client σ) : Nat :=
  client.agenda.total (fun
    | .arrive call => call.work + 1
    | .ended call _ => call.work)
    + client.slots.waiting.foldr (fun call rest => call.work + rest) 0

/-- Let at most some number of events happen. -/
def runFor (serve : Server σ) : Nat → Client σ → Client σ
  | 0, client => client
  | n + 1, client =>
    match advance? serve client with
    | none => client
    | some next => runFor serve n next

/-- Let everything happen. -/
def run (serve : Server σ) (client : Client σ) : Client σ := runFor serve client.work client

/-- Enter calls, each with the moment it starts, counted from now. -/
def enter (client : Client σ) (calls : List (Nat × Plan)) : Client σ :=
  { client with
    agenda := client.agenda ++ calls.zipIdx.map fun ((start, plan), id) =>
      ⟨client.now + start, .arrive ⟨id, plan, 1⟩⟩
    sent := []
    finished := [] }

end Client

end DomainScout.Remote
