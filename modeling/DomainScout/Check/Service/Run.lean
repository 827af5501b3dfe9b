import DomainScout.Check.Service.Step

/-!
# Running the check service

Running the service means taking the earliest event until none is left. Every event leads to a
limited number of others, so there is a bound on all that can still happen.
-/
namespace DomainScout

open Remote

/-- A bound on the events of an errand from the sending of an attempt on. -/
def attemptWork (attempt : Nat) : Nat := 2 * (4 - attempt)

/-- A bound on the events that the end of an errand leads to. -/
def Errand.work : Errand → Nat
  | .logIn _ _ => attemptWork 1 + 1
  | .lookup _ | .availability | .snapshots => 1

/-- A bound on the events that a run leads to which waits at the token desk. -/
def waitingWork : Nat := attemptWork 1 + (Errand.logIn "" "").work

/-- A bound on the events that an event leads to, itself included. -/
def CheckEvent.work : CheckEvent → Nat
  | .arrive _ _ _ => waitingWork + 2 * (attemptWork 1 + 1) + 3
  | .giveUp _ | .forget _ => 1
  | .send _ errand attempt => attemptWork attempt + errand.work
  | .ended _ errand attempt _ => attemptWork attempt - 1 + errand.work

namespace CheckService

variable {σ : Type}

/-- A bound on the events that can still happen. -/
def work (service : CheckService σ) : Nat :=
  service.agenda.total CheckEvent.work + waitingWork * service.desk.waiting.length

/-- Let the earliest event happen. -/
def next? (sites : CheckSites σ) (service : CheckService σ) : Option (CheckService σ) :=
  service.agenda.next?.map fun (timed, agenda) =>
    step sites { service with agenda, now := max service.now timed.due } timed.item

/-- Let at most some number of events happen. -/
def runFor (sites : CheckSites σ) : Nat → CheckService σ → CheckService σ
  | 0, service => service
  | n + 1, service =>
    match service.next? sites with
    | none => service
    | some next => runFor sites n next

/-- Let everything happen. -/
def run (sites : CheckSites σ) (service : CheckService σ) : CheckService σ :=
  runFor sites service.work service

/-- A check to be made. -/
structure Inquiry where
  /-- Milliseconds from now. -/
  start : Nat
  domain : Value
  patience : Option Nat

/-- Put checks on the agenda, by callers numbered in order, and start new records of what is sent
and answered. -/
def ask (service : CheckService σ) (inquiries : List Inquiry) : CheckService σ :=
  { service with
    agenda := service.agenda ++ inquiries.zipIdx.map fun (inquiry, caller) =>
      ⟨service.now + inquiry.start, .arrive caller inquiry.domain inquiry.patience⟩
    sent := []
    answers := [] }

/-- Make some checks and let everything happen. -/
def check (sites : CheckSites σ) (service : CheckService σ) (inquiries : List Inquiry) :
    CheckService σ :=
  (service.ask inquiries).run sites

/-- The moment of the last answer. -/
def lastAnswer (service : CheckService σ) : Nat :=
  (service.answers.map CheckAnswer.answeredAt).foldl max 0

/-- What was sent until everybody was answered. -/
def sentUntilAnswered (service : CheckService σ) : List Sent :=
  service.sent.filter fun sent => sent.sentAt ≤ service.lastAnswer

end CheckService

end DomainScout
