import DomainScout.Proofs.Remote.Retry

/-!
# Slots along a run

A ledger tells what has happened along a run: which calls came for a slot, which attempts were given
one, and which are over. Of what is due at the same moment anything may happen first. Whatever does, no
slot is lost and none is given twice: every attempt on the ledger is over or under way, the slots that
are taken are those of the attempts under way, and nobody waits while one is free. Calls are served in
the order in which they came, and a call whose attempt is to be made again comes again after the wait,
behind all who came before.

Main statement: `fair_slots`.
-/
namespace DomainScout.Remote

/-! ### Ledgers -/

/-- The close of an attempt: whose it is, when, and with what outcome. -/
structure Close where
  call : Call
  closesAt : Nat
  outcome : Outcome

namespace Close

/-- The call that comes again after an attempt, and when. -/
def again? (close : Close) : Option (Timed Call) :=
  match close.call.plan.verdict close.call.attempt close.outcome with
  | .final => none
  | .retry wait =>
    some ⟨close.closesAt + wait, { close.call with attempt := close.call.attempt + 1 }⟩

/-- How a call ended, if the attempt was its last one. -/
def last? (close : Close) : Option Finished :=
  match close.call.plan.verdict close.call.attempt close.outcome with
  | .final => some ⟨close.call.id, close.closesAt, close.outcome⟩
  | .retry _ => none

end Close

namespace Begun

/-- How an attempt that has begun is to close. -/
def close (begun : Begun) : Close := ⟨begun.call, begun.endsAt, begun.outcome⟩

/-- An attempt holds its slot at a moment. -/
def Holds (begun : Begun) (moment : Nat) : Prop := begun.begunAt ≤ moment ∧ moment < begun.endsAt

instance (begun : Begun) (moment : Nat) : Decidable (begun.Holds moment) :=
  inferInstanceAs (Decidable (_ ∧ _))

/-- The limit of an attempt runs from the moment when it begins. -/
structure Limited (begun : Begun) : Prop where
  timely : begun.call.plan.timeout.limit.Positive →
    Timely begun.call.plan begun.begunAt begun.reply begun.endsAt begun.outcome
  atOnce : ¬ begun.call.plan.timeout.limit.Positive → begun.endsAt = begun.begunAt

end Begun

/-- What has happened along a run, in order. -/
structure Ledger where
  /-- The calls that came for a slot, and when. -/
  came : List (Timed Call)
  /-- The attempts that were given one. -/
  begun : List Begun
  /-- The attempts that are over, with the moments when they were found so. -/
  closed : List Close

namespace Ledger

/-- Nothing has happened yet. -/
def blank : Ledger := ⟨[], [], []⟩

/-- Enter an event, the moment when it happens, and the attempt that begins with it. -/
def enter (ledger : Ledger) (now : Nat) (begun : Option Begun) : ClientEvent → Ledger
  | .arrive call =>
    { ledger with came := ledger.came ++ [⟨now, call⟩], begun := ledger.begun ++ begun.toList }
  | .ended call outcome =>
    { ledger with
      closed := ledger.closed ++ [⟨call, now, outcome⟩], begun := ledger.begun ++ begun.toList }

/-- How many attempts hold a slot at a moment. -/
def holding (ledger : Ledger) (moment : Nat) : Nat :=
  ledger.begun.countP fun begun => begun.Holds moment

theorem length_enter (ledger : Ledger) (now : Nat) (begun : Option Begun) (event : ClientEvent) :
    (ledger.enter now begun event).came.length + (ledger.enter now begun event).closed.length =
      ledger.came.length + ledger.closed.length + 1 := by
  cases event <;> simp [enter] <;> omega

end Ledger

namespace Client

variable {σ : Type}

/-- What happens to a client from a start on, as a ledger tells it. -/
inductive Runs (serve : Server σ) (start : Client σ) : Ledger → Client σ → Prop
  | start : Runs serve start .blank start
  | turn {ledger : Ledger} {client turned : Client σ} {event : ClientEvent}
      (runs : Runs serve start ledger client) (turn : client.Turn event turned) :
      Runs serve start (ledger.enter turned.now (turned.begun? serve event) event)
        (step serve turned event)

/-- The attempts under way. -/
def underway (client : Client σ) : List Close :=
  client.agenda.filterMap fun timed => match timed.item with
    | .arrive _ => none
    | .ended call outcome => some ⟨call, timed.due, outcome⟩

/-- The calls that are to come, for the first time or again. -/
def coming (client : Client σ) : List (Timed Call) :=
  client.agenda.filterMap fun timed => match timed.item with
    | .arrive call => some ⟨timed.due, call⟩
    | .ended _ _ => none

/-- The numbers of all calls: of those that are to come, that wait for a slot, that hold one, and that are
over. -/
def whereabouts (client : Client σ) : List Nat :=
  client.coming.map (fun timed => timed.item.id) ++ client.slots.waiting.map Call.id ++
    client.underway.map (fun close => close.call.id) ++ client.finished.map Finished.id

/-- Nothing is due, nobody waits, and no slot is taken. -/
structure Idle (client : Client σ) : Prop where
  agenda : client.agenda = []
  waiting : client.slots.waiting = []
  taken : client.slots.taken = 0

/-! ### Turns -/

section Turns

variable {serve : Server σ} {client turned after : Client σ} {event : ClientEvent}
  {begun : Option Begun} {call : Call} {outcome : Outcome}

theorem Turn.slots_eq (turn : client.Turn event turned) : turned.slots = client.slots := by
  cases turn
  rfl

theorem Turn.granted_eq (turn : client.Turn event turned) : turned.granted = client.granted := by
  cases turn
  rfl

theorem Turn.finished_eq (turn : client.Turn event turned) : turned.finished = client.finished := by
  cases turn
  rfl

theorem Turn.now_le (turn : client.Turn event turned) : client.now ≤ turned.now := by
  cases turn
  exact Nat.le_max_left _ _

/-- Whoever comes was to come at just this moment. -/
theorem Turn.of_arrive (turn : client.Turn (.arrive call) turned)
    (ahead : ∀ timed ∈ client.agenda, client.now ≤ timed.due) :
    client.coming.Perm (⟨turned.now, call⟩ :: turned.coming) ∧ turned.underway = client.underway := by
  obtain @⟨before, behind, due, _, agenda, first⟩ := turn
  have now : max client.now due = due := Nat.max_eq_right (ahead ⟨due, .arrive call⟩ (by simp [agenda]))
  simp only [coming, underway, agenda, now, List.filterMap_append, List.filterMap_cons]
  exact ⟨List.perm_middle, trivial⟩

/-- An attempt ends at the moment when it was to end. -/
theorem Turn.of_ended (turn : client.Turn (.ended call outcome) turned)
    (ahead : ∀ timed ∈ client.agenda, client.now ≤ timed.due) :
    client.underway.Perm (⟨call, turned.now, outcome⟩ :: turned.underway) ∧
      turned.coming = client.coming := by
  obtain @⟨before, behind, due, _, agenda, first⟩ := turn
  have now : max client.now due = due :=
    Nat.max_eq_right (ahead ⟨due, .ended call outcome⟩ (by simp [agenda]))
  simp only [coming, underway, agenda, now, List.filterMap_append, List.filterMap_cons]
  exact ⟨List.perm_middle, trivial⟩

theorem exists_turn (due : client.agenda ≠ []) : ∃ event turned, client.Turn event turned := by
  cases turn : client.turn? with
  | none => exact absurd (agenda_eq_nil_of_turn? turn) due
  | some next => exact ⟨next.1, next.2, turn_of_turn? turn⟩

theorem Stepped.now_eq (stepped : Stepped serve client event begun after) : after.now = client.now := by
  cases stepped <;> simp

theorem Stepped.eq_begun? (stepped : Stepped serve client event begun after) :
    begun = client.begun? serve event := by
  cases stepped with
  | begins nobody free => simp [begun?, Slots.enter, nobody, free]
  | waits full => simp [begun?, Slots.enter, full]
  | frees nobody => simp [begun?, Slots.leave, nobody]
  | hands first => simp [begun?, Slots.leave, first]

@[simp] theorem underway_start (serve : Server σ) (client : Client σ) (call : Call) :
    (start serve client call).underway = client.underway ++ [(client.beginning serve call).close] := by
  simp [underway, Begun.close, beginning]

@[simp] theorem coming_start (serve : Server σ) (client : Client σ) (call : Call) :
    (start serve client call).coming = client.coming := by
  simp [coming]

@[simp] theorem underway_conclude (client : Client σ) (call : Call) (outcome : Outcome) :
    (client.conclude call outcome).underway = client.underway := by
  unfold conclude
  split <;> simp [underway, Agenda.enter]

theorem coming_conclude (client : Client σ) (call : Call) (outcome : Outcome) :
    (client.conclude call outcome).coming =
      client.coming ++ (Close.mk call client.now outcome).again?.toList := by
  unfold conclude Close.again?
  cases call.plan.verdict call.attempt outcome <;> simp [coming, Agenda.enter]

theorem finished_conclude (client : Client σ) (call : Call) (outcome : Outcome) :
    (client.conclude call outcome).finished =
      client.finished ++ (Close.mk call client.now outcome).last?.toList := by
  unfold conclude Close.last?
  cases call.plan.verdict call.attempt outcome <;> simp

theorem endsAt_attempt_of_not_positive {plan : Plan} (spent : ¬ plan.timeout.limit.Positive)
    (serve : Server σ) (server : σ) (now : Nat) : (plan.attempt serve server now).endsAt = now := by
  unfold Plan.attempt
  cases limit : plan.timeout.limit with
  | spent | unusable => rfl
  | unlimited => exact absurd (limit ▸ .unlimited) spent
  | within units =>
    have nothing : units = 0 := by
      by_contra some
      exact spent (limit ▸ .within (Nat.pos_of_ne_zero some))
    cases plan.request with
    | error crash => rfl
    | ok request =>
      have zero : Binary64.roundQuotient 0 Binary64.unit = 0 := by
        simp [Binary64.roundQuotient, Binary64.unit_pos]
      simp [nothing, Request.send, Limit.allows, Limit.milliseconds, zero]

theorem limited_beginning (serve : Server σ) (client : Client σ) (call : Call) :
    (client.beginning serve call).Limited where
  timely positive := timely_attempt positive serve client.server client.now
  atOnce spent := endsAt_attempt_of_not_positive spent serve client.server client.now

/-- What one turn does, to the client and to its ledger. -/
inductive Changed (ledger : Ledger) (client after : Client σ) : Ledger → Prop
  /-- A call comes and is given a slot. -/
  | begins {call : Call} {begun : Begun} (own : begun.call = call) (now : begun.begunAt = after.now)
      (limited : begun.Limited) (nobody : client.slots.waiting = [])
      (free : client.slots.taken < client.slots.capacity)
      (slots : after.slots = { client.slots with taken := client.slots.taken + 1 })
      (coming : client.coming.Perm (⟨after.now, call⟩ :: after.coming))
      (underway : after.underway = client.underway ++ [begun.close])
      (granted : after.granted = client.granted + 1) (finished : after.finished = client.finished) :
      Changed ledger client after
        { ledger with came := ledger.came ++ [⟨after.now, call⟩], begun := ledger.begun ++ [begun] }
  /-- A call comes and waits. -/
  | waits {call : Call}
      (full : ¬ (client.slots.taken < client.slots.capacity ∧ client.slots.waiting = []))
      (slots : after.slots = { client.slots with waiting := client.slots.waiting ++ [call] })
      (coming : client.coming.Perm (⟨after.now, call⟩ :: after.coming))
      (underway : after.underway = client.underway) (granted : after.granted = client.granted)
      (finished : after.finished = client.finished) :
      Changed ledger client after { ledger with came := ledger.came ++ [⟨after.now, call⟩] }
  /-- An attempt gives its slot back. -/
  | frees {close : Close} (now : close.closesAt = after.now) (nobody : client.slots.waiting = [])
      (slots : after.slots = { client.slots with taken := client.slots.taken - 1 })
      (coming : after.coming = client.coming ++ close.again?.toList)
      (underway : client.underway.Perm (close :: after.underway))
      (granted : after.granted = client.granted)
      (finished : after.finished = client.finished ++ close.last?.toList) :
      Changed ledger client after { ledger with closed := ledger.closed ++ [close] }
  /-- An attempt gives its slot to who has waited longest. -/
  | hands {close : Close} {begun : Begun} {rest : List Call} (now : close.closesAt = after.now)
      (first : client.slots.waiting = begun.call :: rest) (given : begun.begunAt = after.now)
      (limited : begun.Limited) (slots : after.slots = { client.slots with waiting := rest })
      (coming : after.coming = client.coming ++ close.again?.toList)
      (underway : (client.underway ++ [begun.close]).Perm (close :: after.underway))
      (granted : after.granted = client.granted + 1)
      (finished : after.finished = client.finished ++ close.last?.toList) :
      Changed ledger client after
        { ledger with closed := ledger.closed ++ [close], begun := ledger.begun ++ [begun] }

theorem changed (ledger : Ledger) (turn : client.Turn event turned)
    (stepped : Stepped serve turned event begun after)
    (ahead : ∀ timed ∈ client.agenda, client.now ≤ timed.due) :
    Changed ledger client after (ledger.enter turned.now begun event) := by
  have slots := turn.slots_eq
  have granted := turn.granted_eq
  have finished := turn.finished_eq
  cases stepped with
  | @begins call nobody free =>
    obtain ⟨coming, underway⟩ := turn.of_arrive ahead
    rw [slots] at nobody free
    refine .begins rfl rfl (limited_beginning serve turned call) nobody free ?_ ?_ ?_ ?_ ?_
    · rw [slots_start, slots]
    · rw [coming_start]
      exact coming
    · exact (underway_start serve _ call).trans (congrArg (· ++ _) underway)
    · exact congrArg (· + 1) granted
    · exact finished
  | @waits call full =>
    obtain ⟨coming, underway⟩ := turn.of_arrive ahead
    rw [slots] at full
    rw [Ledger.enter, Option.toList_none, List.append_nil]
    exact .waits full (by rw [← slots]) coming underway granted finished
  | @frees call outcome nobody =>
    obtain ⟨underway, coming⟩ := turn.of_ended ahead
    rw [slots] at nobody
    rw [Ledger.enter, Option.toList_none, List.append_nil]
    refine .frees ?_ nobody ?_ ?_ ?_ ?_ ?_
    · rw [now_conclude]
    · rw [slots_conclude, slots]
    · exact (coming_conclude _ call outcome).trans (congrArg (· ++ _) coming)
    · rw [underway_conclude]
      exact underway
    · exact (granted_conclude _ call outcome).trans granted
    · exact (finished_conclude _ call outcome).trans (congrArg (· ++ _) finished)
  | @hands call next outcome rest first =>
    obtain ⟨underway, coming⟩ := turn.of_ended ahead
    rw [slots] at first
    refine .hands ?_ first ?_ (limited_beginning serve turned next) ?_ ?_ ?_ ?_ ?_
    · rw [now_conclude, now_start]
    · rw [now_conclude, now_start]
      rfl
    · rw [slots_conclude, slots_start, slots]
    · refine (coming_conclude _ call outcome).trans (congrArg (· ++ _) ?_)
      exact (coming_start serve _ next).trans coming
    · rw [underway_conclude, underway_start]
      exact underway.append_right [(turned.beginning serve next).close]
    · exact (granted_conclude _ call outcome).trans (congrArg (· + 1) granted)
    · exact (finished_conclude _ call outcome).trans (congrArg (· ++ _) finished)

end Turns

/-! ### What the ledger keeps -/

/-- Nothing gets lost between a ledger and its client. -/
structure Booked (start : Client σ) (ledger : Ledger) (client : Client σ) : Prop where
  capacity : client.slots.capacity = start.slots.capacity
  granted : client.granted = start.granted + ledger.begun.length
  /-- Slots are given in the order in which they were asked for. -/
  queue : ledger.came.map Timed.item = ledger.begun.map Begun.call ++ client.slots.waiting
  /-- What has begun is over or under way. -/
  closes : (ledger.begun.map Begun.close).Perm (ledger.closed ++ client.underway)
  /-- Who was to come has come or is still to come. -/
  arrivals : (ledger.came ++ client.coming).Perm
    (start.coming ++ ledger.closed.filterMap Close.again?)
  finished : client.finished = start.finished ++ ledger.closed.filterMap Close.last?

/-- The slots that are taken are those of the attempts under way, and nobody waits for a free one. -/
structure Held (client : Client σ) : Prop where
  taken : client.slots.taken = client.underway.length
  within : client.slots.taken ≤ client.slots.capacity
  busy : client.slots.waiting ≠ [] → client.slots.taken = client.slots.capacity

/-- A ledger is kept up to some moment, in the order of time. -/
structure Dated (now : Nat) (ledger : Ledger) : Prop where
  came : ∀ came ∈ ledger.came, came.due ≤ now
  begun : ∀ begun ∈ ledger.begun, begun.begunAt ≤ now
  closed : ∀ close ∈ ledger.closed, close.closesAt ≤ now
  sorted : ledger.came.Pairwise fun one other => one.due ≤ other.due
  inOrder : ledger.begun.Pairwise fun one other => one.begunAt ≤ other.begunAt

section Kept

variable {start client after : Client σ} {ledger ledger' : Ledger}

theorem filterMap_snoc {α : Type} (closed : List Close) (close : Close) (f : Close → Option α) :
    (closed ++ [close]).filterMap f = closed.filterMap f ++ (f close).toList := by
  rw [List.filterMap_append]
  cases found : f close <;> simp [found]

theorem Booked.next (booked : Booked start ledger client)
    (changed : Changed ledger client after ledger') : Booked start ledger' after := by
  obtain ⟨capacity, granted, queue, closes, arrivals, finished⟩ := booked
  -- Who comes was to come, and who is to come again does so for an attempt that is over.
  have comes {call : Call} (coming : client.coming.Perm (⟨after.now, call⟩ :: after.coming)) :
      (ledger.came ++ [Timed.mk after.now call] ++ after.coming).Perm
        (start.coming ++ ledger.closed.filterMap Close.again?) := by
    rw [List.append_assoc]
    exact (coming.symm.append_left ledger.came).trans arrivals
  have goes {close : Close} (coming : after.coming = client.coming ++ close.again?.toList) :
      (ledger.came ++ after.coming).Perm
        (start.coming ++ (ledger.closed ++ [close]).filterMap Close.again?) := by
    rw [coming, filterMap_snoc, ← List.append_assoc, ← List.append_assoc]
    exact arrivals.append_right close.again?.toList
  cases changed with
  | @begins call begun own now limited nobody free slots coming underway granted' finished' =>
    constructor
    case capacity => rw [slots, capacity]
    case granted => simp [granted', granted, Nat.add_assoc]
    case queue => simp [slots, queue, nobody, own]
    case closes => simpa [underway] using closes.append_right [begun.close]
    case arrivals => exact comes coming
    case finished => rw [finished', finished]
  | @waits call full slots coming underway granted' finished' =>
    constructor
    case capacity => rw [slots, capacity]
    case granted => rw [granted', granted]
    case queue => simp [slots, queue]
    case closes => rwa [underway]
    case arrivals => exact comes coming
    case finished => rw [finished', finished]
  | @frees close now nobody slots coming underway granted' finished' =>
    constructor
    case capacity => rw [slots, capacity]
    case granted => rw [granted', granted]
    case queue => rw [slots, queue]
    case closes =>
      refine closes.trans ?_
      rw [List.append_assoc]
      exact underway.append_left ledger.closed
    case arrivals => exact goes coming
    case finished => rw [finished', finished, filterMap_snoc, List.append_assoc]
  | @hands close begun rest now first given limited slots coming underway granted' finished' =>
    constructor
    case capacity => rw [slots, capacity]
    case granted => simp [granted', granted, Nat.add_assoc]
    case queue => simp [slots, queue, first]
    case closes =>
      rw [List.map_append, List.append_assoc]
      refine (closes.append_right [begun.close]).trans ?_
      rw [List.append_assoc]
      exact underway.append_left ledger.closed
    case arrivals => exact goes coming
    case finished => rw [finished', finished, filterMap_snoc, List.append_assoc]

theorem Held.next (held : Held client) (changed : Changed ledger client after ledger') :
    Held after := by
  obtain ⟨taken, within, busy⟩ := held
  cases changed with
  | begins own now limited nobody free slots coming underway =>
    constructor
    case taken => simp [slots, underway, taken]
    case within =>
      rw [slots]
      exact free
    case busy => exact fun waiting => absurd (slots ▸ nobody) waiting
  | waits full slots coming underway =>
    constructor
    case taken => rw [slots, underway, taken]
    case within => rwa [slots]
    case busy =>
      intro _
      rw [slots]
      -- Who comes waits because others do already, or because all slots are taken.
      by_cases nobody : client.slots.waiting = []
      · exact Nat.le_antisymm within (Nat.le_of_not_lt fun free => full ⟨free, nobody⟩)
      · exact busy nobody
  | frees now nobody slots coming underway =>
    have one := underway.length_eq
    rw [List.length_cons] at one
    constructor
    case taken =>
      rw [slots]
      dsimp only
      omega
    case within =>
      rw [slots]
      exact Nat.le_trans (Nat.sub_le _ _) within
    case busy => exact fun waiting => absurd (slots ▸ nobody) waiting
  | hands now first given limited slots coming underway =>
    have same := underway.length_eq
    rw [List.length_append, List.length_singleton, List.length_cons] at same
    constructor
    case taken =>
      rw [slots]
      dsimp only
      omega
    case within => rwa [slots]
    case busy =>
      intro _
      rw [slots]
      exact busy (first ▸ List.cons_ne_nil _ _)

theorem Dated.later {now later : Nat} (dated : Dated now ledger) (le : now ≤ later) :
    Dated later ledger where
  came came here := Nat.le_trans (dated.came came here) le
  begun begun here := Nat.le_trans (dated.begun begun here) le
  closed close here := Nat.le_trans (dated.closed close here) le
  sorted := dated.sorted
  inOrder := dated.inOrder

theorem Dated.come {now : Nat} (dated : Dated now ledger) (call : Call) :
    Dated now { ledger with came := ledger.came ++ [⟨now, call⟩] } where
  came := by simpa [or_imp, forall_and] using dated.came
  begun := dated.begun
  closed := dated.closed
  sorted := List.pairwise_append.mpr
    ⟨dated.sorted, List.pairwise_singleton _ _, by simpa using dated.came⟩
  inOrder := dated.inOrder

theorem Dated.begin {now : Nat} (dated : Dated now ledger) {begun : Begun}
    (begins : begun.begunAt = now) : Dated now { ledger with begun := ledger.begun ++ [begun] } where
  came := dated.came
  begun := by simpa [or_imp, forall_and, begins] using dated.begun
  closed := dated.closed
  sorted := dated.sorted
  inOrder := List.pairwise_append.mpr
    ⟨dated.inOrder, List.pairwise_singleton _ _, by simpa [begins] using dated.begun⟩

theorem Dated.close {now : Nat} (dated : Dated now ledger) {close : Close}
    (closes : close.closesAt = now) : Dated now { ledger with closed := ledger.closed ++ [close] } where
  came := dated.came
  begun := dated.begun
  closed := by simpa [or_imp, forall_and, closes] using dated.closed
  sorted := dated.sorted
  inOrder := dated.inOrder

theorem Dated.next (dated : Dated client.now ledger) (later : client.now ≤ after.now)
    (changed : Changed ledger client after ledger') : Dated after.now ledger' := by
  have dated := dated.later later
  cases changed with
  | @begins call begun own now => exact (dated.come call).begin now
  | @waits call => exact dated.come call
  | frees now => exact dated.close now
  | hands now first given => exact (dated.close now).begin given

/-! ### Who is served -/

/-- Who came is given a slot, at once or when an attempt gives one back. -/
structure Served (ledger : Ledger) (came : Timed Call) (begun : Begun) : Prop where
  own : begun.call = came.item
  notBefore : came.due ≤ begun.begunAt
  prompt : begun.begunAt = came.due ∨ ∃ close ∈ ledger.closed, close.closesAt = begun.begunAt

/-- Slots are given one by one to those who came. -/
def InTurn (ledger : Ledger) : Prop :=
  ∀ (i : Nat) (came : Timed Call) (begun : Begun),
    ledger.came[i]? = some came → ledger.begun[i]? = some begun → Served ledger came begun

theorem Booked.length_came (booked : Booked start ledger client) :
    ledger.came.length = ledger.begun.length + client.slots.waiting.length := by
  have lengths := congrArg List.length booked.queue
  simpa using lengths

/-- A call that comes changes nothing for those who have been given a slot before. -/
theorem InTurn.come (inTurn : InTurn ledger) (long : ledger.begun.length ≤ ledger.came.length)
    (timed : Timed Call) : InTurn { ledger with came := ledger.came ++ [timed] } := by
  intro i came begun comes begins
  have inside : i < ledger.begun.length := (List.getElem?_eq_some_iff.mp begins).1
  have comes : (ledger.came ++ [timed])[i]? = some came := comes
  rw [List.getElem?_append_left (Nat.lt_of_lt_of_le inside long)] at comes
  obtain ⟨own, notBefore, prompt⟩ := inTurn i came begun comes begins
  exact ⟨own, notBefore, prompt⟩

/-- The next slot is given to the next who came. -/
theorem InTurn.begin (inTurn : InTurn ledger) {begun : Begun}
    (served : ∀ came, ledger.came[ledger.begun.length]? = some came → Served ledger came begun) :
    InTurn { ledger with begun := ledger.begun ++ [begun] } := by
  intro i came other comes begins
  rcases getElem?_snoc begins with ⟨before, -⟩ | ⟨rfl, rfl⟩
  · obtain ⟨own, notBefore, prompt⟩ := inTurn i came other comes before
    exact ⟨own, notBefore, prompt⟩
  · obtain ⟨own, notBefore, prompt⟩ := served came comes
    exact ⟨own, notBefore, prompt⟩

theorem InTurn.close (inTurn : InTurn ledger) (close : Close) :
    InTurn { ledger with closed := ledger.closed ++ [close] } := by
  intro i came begun comes begins
  obtain ⟨own, notBefore, prompt⟩ := inTurn i came begun comes begins
  exact ⟨own, notBefore, prompt.imp_right fun ⟨other, member, same⟩ =>
    ⟨other, List.mem_append_left _ member, same⟩⟩

theorem InTurn.next (inTurn : InTurn ledger) (booked : Booked start ledger client)
    (dated : Dated client.now ledger) (later : client.now ≤ after.now)
    (changed : Changed ledger client after ledger') : InTurn ledger' := by
  have lengths := booked.length_came
  have long : ledger.begun.length ≤ ledger.came.length := by omega
  cases changed with
  | @begins call begun own now limited nobody =>
    -- Nobody waits, so it is the call that comes.
    have last : ledger.begun.length = ledger.came.length := by
      rw [lengths, nobody, List.length_nil, Nat.add_zero]
    apply (inTurn.come long ⟨after.now, call⟩).begin
    intro came comes
    have comes : (ledger.came ++ [⟨after.now, call⟩])[ledger.begun.length]? = some came := comes
    rw [last, List.getElem?_concat_length] at comes
    cases comes
    exact ⟨own, Nat.le_of_eq now.symm, .inl now⟩
  | @waits call => exact inTurn.come long ⟨after.now, call⟩
  | @frees close => exact inTurn.close close
  | @hands close begun rest now first given =>
    apply (inTurn.close close).begin
    intro came comes
    have comes : ledger.came[ledger.begun.length]? = some came := comes
    -- Behind those who have been given a slot comes the first of those who wait.
    have next : (ledger.came.map Timed.item)[ledger.begun.length]? = some begun.call := by
      rw [booked.queue, first, List.getElem?_append_right (by simp)]
      simp
    rw [List.getElem?_map, comes] at next
    constructor
    case own => exact (Option.some.inj next).symm
    case notBefore =>
      rw [given]
      exact Nat.le_trans (dated.came came (List.mem_of_getElem? comes)) later
    case prompt => exact .inr ⟨close, by simp, by rw [now, given]⟩

/-! ### How many hold a slot -/

/-- From now on only the attempts under way hold a slot. -/
theorem holding_le (booked : Booked start ledger client) (held : Held client)
    (dated : Dated client.now ledger) {moment : Nat} (late : client.now ≤ moment) :
    ledger.holding moment ≤ client.slots.capacity := by
  have past : ledger.closed.countP (fun close => moment < close.closesAt) = 0 := by
    rw [List.countP_eq_zero]
    intro close member
    have noticed := dated.closed close member
    simp only [decide_eq_true_eq]
    omega
  calc ledger.holding moment
      ≤ ledger.begun.countP fun begun => moment < begun.close.closesAt :=
        List.countP_mono_left fun begun _ holds => by
          simp only [decide_eq_true_eq] at holds ⊢
          exact holds.2
    _ = (ledger.begun.map Begun.close).countP fun close => moment < close.closesAt := by
        rw [List.countP_map]
        rfl
    _ = client.underway.countP fun close => moment < close.closesAt := by
        rw [booked.closes.countP_eq, List.countP_append, past, Nat.zero_add]
    _ ≤ client.underway.length := List.countP_le_length
    _ ≤ client.slots.capacity := held.taken ▸ held.within

theorem Changed.begun_eq (changed : Changed ledger client after ledger') :
    ∃ more : List Begun, ledger'.begun = ledger.begun ++ more ∧
      ∀ begun ∈ more, begun.begunAt = after.now ∧ begun.Limited := by
  cases changed with
  | @begins call begun own now limited => exact ⟨[begun], rfl, by simpa using ⟨now, limited⟩⟩
  | waits | frees => exact ⟨[], by simp, by simp⟩
  | @hands close begun rest now first given limited =>
    exact ⟨[begun], rfl, by simpa using ⟨given, limited⟩⟩

/-- Attempts that begin now held no slot before. -/
theorem Changed.holding_eq (changed : Changed ledger client after ledger') {moment : Nat}
    (early : moment < after.now) : ledger'.holding moment = ledger.holding moment := by
  obtain ⟨more, begun, later⟩ := changed.begun_eq
  have none : more.countP (fun begun => begun.Holds moment) = 0 := by
    rw [List.countP_eq_zero]
    intro begun member holds
    have held := of_decide_eq_true holds
    rw [Begun.Holds, (later begun member).1] at held
    omega
  rw [Ledger.holding, begun, List.countP_append, none, Nat.add_zero]
  rfl

end Kept

/-! ### Runs -/

/-- What holds all along a run. -/
structure Sound (start : Client σ) (ledger : Ledger) (client : Client σ) : Prop where
  ahead : ∀ timed ∈ client.agenda, client.now ≤ timed.due
  booked : Booked start ledger client
  held : Held client
  dated : Dated client.now ledger
  inTurn : InTurn ledger
  limited : ∀ begun ∈ ledger.begun, begun.Limited
  holding : ∀ moment, ledger.holding moment ≤ start.slots.capacity
  work : client.work + (ledger.came.length + ledger.closed.length) ≤ start.work

section Runs

variable {serve : Server σ} {start client turned after : Client σ} {event : ClientEvent}
  {begun : Option Begun} {ledger : Ledger}

theorem Sound.next (sound : Sound start ledger client) (turn : client.Turn event turned)
    (stepped : Stepped serve turned event begun after) :
    Sound start (ledger.enter turned.now begun event) after := by
  have later : client.now ≤ after.now := stepped.now_eq ▸ turn.now_le
  have changed := changed ledger turn stepped sound.ahead
  have booked := sound.booked.next changed
  have held := sound.held.next changed
  have dated := sound.dated.next later changed
  constructor
  case ahead => exact ahead_turned turn stepped sound.ahead
  case booked => exact booked
  case held => exact held
  case dated => exact dated
  case inTurn => exact sound.inTurn.next sound.booked sound.dated later changed
  case limited =>
    obtain ⟨more, begun, limited⟩ := changed.begun_eq
    rw [begun]
    exact List.forall_mem_append.mpr ⟨sound.limited, fun begun member => (limited begun member).2⟩
  case holding =>
    intro moment
    by_cases late : after.now ≤ moment
    · exact booked.capacity ▸ holding_le booked held dated late
    · rw [changed.holding_eq (Nat.lt_of_not_le late)]
      exact sound.holding moment
  case work =>
    have before := turn.work_eq
    have less := work_of_stepped stepped
    have entered := ledger.length_enter turned.now begun event
    have bound := sound.work
    omega

theorem sound_of_runs (sound : Sound start .blank start) (runs : Runs serve start ledger client) :
    Sound start ledger client := by
  induction runs with
  | start => exact sound
  | turn runs turn ih => exact ih.next turn (stepped serve _ _)

/-- What a client does of itself is a run. -/
theorem exists_runs (serve : Server σ) (client : Client σ) (n : Nat) :
    ∃ ledger, Runs serve client ledger (runFor serve n client) ∧
      ledger.begun = begunFor serve n client := by
  refine after_turns (P := fun current log => ∃ ledger, Runs serve client ledger current ∧
    ledger.begun = log) ?_ ⟨.blank, .start, rfl⟩ n
  rintro current log event turned begun after ⟨ledger, runs, rfl⟩ turn stepped
  refine ⟨_, stepped.eq_step ▸ runs.turn (turn_of_turn? turn), ?_⟩
  rw [stepped.eq_begun?]
  cases event <;> rfl

end Runs

section Entering

variable {client : Client σ} {calls : List (Nat × Plan)}

/-- The calls that are entered, each for its first attempt. -/
def entered (client : Client σ) (calls : List (Nat × Plan)) : List (Timed Call) :=
  calls.zipIdx.map fun ((start, plan), id) => ⟨client.now + start, ⟨id, plan, 1⟩⟩

theorem coming_enter (idle : client.Idle) : (client.enter calls).coming = client.entered calls := by
  simp [coming, enter, entered, idle.agenda, List.filterMap_map]

theorem underway_enter (idle : client.Idle) : (client.enter calls).underway = [] := by
  simp [underway, enter, idle.agenda, List.filterMap_map]

theorem map_id_entered (client : Client σ) (calls : List (Nat × Plan)) :
    (client.entered calls).map (fun timed => timed.item.id) = List.range calls.length := by
  rw [entered, List.map_map, List.range_eq_range', ← List.zipIdx_map_snd]
  rfl

theorem sound_enter (idle : client.Idle) : Sound (client.enter calls) .blank (client.enter calls) := by
  have nobody : (client.enter calls).slots.waiting = [] := idle.waiting
  have none : (client.enter calls).slots.taken = 0 := idle.taken
  constructor
  case ahead => exact ahead_enter idle.agenda calls
  case booked =>
    constructor
    case capacity | granted => rfl
    case queue => simp [Ledger.blank, nobody]
    case closes => simp [Ledger.blank, underway_enter idle]
    case arrivals => simp [Ledger.blank]
    case finished => simp [Ledger.blank]
  case held =>
    constructor
    case taken => rw [none, underway_enter idle, List.length_nil]
    case within => exact none ▸ Nat.zero_le _
    case busy => exact fun waiting => absurd nobody waiting
  case dated => constructor <;> simp [Ledger.blank]
  case inTurn =>
    intro i came begun comes
    simp [Ledger.blank] at comes
  case limited => simp [Ledger.blank]
  case holding => exact fun _ => Nat.zero_le _
  case work => exact Nat.le_refl _

end Entering

/-! ### Fairness -/

/-- An attempt that is over is made again, or it was the last one of its call. -/
theorem perm_ids (closed : List Close) : (closed.map fun close => close.call.id).Perm
    ((closed.filterMap Close.again?).map (fun timed => timed.item.id) ++
      (closed.filterMap Close.last?).map Finished.id) := by
  induction closed with
  | nil => exact .nil
  | cons close rest ih =>
    cases verdict : close.call.plan.verdict close.call.attempt close.outcome with
    | final =>
      simp only [List.map_cons, List.filterMap_cons, Close.again?, Close.last?, verdict]
      exact (ih.cons _).trans List.perm_middle.symm
    | retry wait =>
      simp only [List.map_cons, List.filterMap_cons, Close.again?, Close.last?, verdict]
      exact ih.cons _

/-- How a client keeps to its slots, on the way from some calls that were entered. -/
structure Fair (before : Client σ) (calls : List (Nat × Plan)) (ledger : Ledger) (client : Client σ) :
    Prop where
  /-- At no moment more attempts hold a slot than there are slots. -/
  holding : ∀ moment, ledger.holding moment ≤ before.slots.capacity
  /-- Slots are taken by the attempts under way, each by one. -/
  taken : client.slots.taken = client.underway.length ∧ client.slots.taken ≤ before.slots.capacity
  /-- Nobody waits for a free slot. -/
  busy : client.slots.waiting ≠ [] → client.slots.taken = before.slots.capacity
  /-- Those who came are given slots in the order in which they came, and the others wait in it. -/
  queue : ledger.came.map Timed.item = ledger.begun.map Begun.call ++ client.slots.waiting
  sorted : ledger.came.Pairwise fun one other => one.due ≤ other.due
  inOrder : ledger.begun.Pairwise fun one other => one.begunAt ≤ other.begunAt
  served : InTurn ledger
  /-- An attempt gives its slot back when it ends, however it ends. -/
  closes : (ledger.begun.map Begun.close).Perm (ledger.closed ++ client.underway)
  /-- A call comes for its first attempt, and again for each other one, after the wait. -/
  arrivals : (ledger.came ++ client.coming).Perm
    (before.entered calls ++ ledger.closed.filterMap Close.again?)
  finished : client.finished = ledger.closed.filterMap Close.last?
  /-- Every call is in one place. -/
  places : client.whereabouts.Perm (List.range calls.length)
  /-- Who is to come again holds no slot. -/
  apart : ∀ timed ∈ client.coming, ∀ close ∈ client.underway, timed.item.id ≠ close.call.id
  /-- The limit of an attempt runs from the moment when it was given its slot. -/
  limited : ∀ begun ∈ ledger.begun, begun.Limited
  granted : client.granted = before.granted + ledger.begun.length
  /-- A run goes on until nothing is due, and it comes to that. -/
  goesOn : client.agenda ≠ [] → ∃ event turned, client.Turn event turned
  atMost : ledger.came.length + ledger.closed.length ≤ (before.enter calls).work
  /-- Then all attempts have given their slots back, and all calls are over. -/
  ends : client.agenda = [] → client.Idle ∧ (ledger.begun.map Begun.close).Perm ledger.closed ∧
    (client.finished.map Finished.id).Perm (List.range calls.length)

section Fair

variable {before client : Client σ} {calls : List (Nat × Plan)} {ledger : Ledger}

theorem Sound.places (sound : Sound (before.enter calls) ledger client) (idle : before.Idle) :
    client.whereabouts.Perm (List.range calls.length) := by
  have booked := sound.booked
  have finished : client.finished = ledger.closed.filterMap Close.last? := booked.finished
  -- Each of the laws of the ledger, as one about numbers of calls.
  have queue := congrArg (List.map Call.id) booked.queue
  have closes := booked.closes.map fun close => close.call.id
  have arrivals := booked.arrivals.map fun timed => timed.item.id
  have ids := perm_ids ledger.closed
  rw [coming_enter idle] at arrivals
  simp only [List.map_append, List.map_map, map_id_entered] at queue closes arrivals
  rw [List.perm_iff_count] at closes arrivals ids ⊢
  intro id
  have queue' := congrArg (List.count id) queue
  have closes' := closes id
  have arrivals' := arrivals id
  have ids' := ids id
  simp only [List.count_append, Function.comp_def, Begun.close] at queue' closes' arrivals' ids'
  simp only [whereabouts, finished, List.count_append]
  omega

theorem Sound.idle (sound : Sound (before.enter calls) ledger client) (room : 1 ≤ before.slots.capacity)
    (nothing : client.agenda = []) : client.Idle := by
  have none : client.slots.taken = 0 := by
    rw [sound.held.taken, underway, nothing]
    rfl
  refine ⟨nothing, ?_, none⟩
  by_contra waiting
  have all := sound.held.busy waiting
  have capacity : client.slots.capacity = before.slots.capacity := sound.booked.capacity
  omega

theorem Sound.fair (sound : Sound (before.enter calls) ledger client) (idle : before.Idle)
    (room : 1 ≤ before.slots.capacity) : Fair before calls ledger client := by
  have capacity : client.slots.capacity = before.slots.capacity := sound.booked.capacity
  have places := sound.places idle
  constructor
  case holding => exact sound.holding
  case taken => exact ⟨sound.held.taken, capacity ▸ sound.held.within⟩
  case busy => exact fun waiting => capacity ▸ sound.held.busy waiting
  case queue => exact sound.booked.queue
  case sorted => exact sound.dated.sorted
  case inOrder => exact sound.dated.inOrder
  case served => exact sound.inTurn
  case closes => exact sound.booked.closes
  case arrivals => exact coming_enter idle ▸ sound.booked.arrivals
  case finished => exact sound.booked.finished
  case places => exact places
  case apart =>
    intro timed comes close under same
    have distinct := places.nodup_iff.mpr List.nodup_range
    simp only [whereabouts, List.append_assoc] at distinct
    have elsewhere : close.call.id ∈ client.slots.waiting.map Call.id ++
        (client.underway.map (fun close => close.call.id) ++ client.finished.map Finished.id) :=
      List.mem_append_right _ (List.mem_append_left _ (List.mem_map_of_mem under))
    rw [← same] at elsewhere
    exact List.disjoint_of_nodup_append distinct (List.mem_map_of_mem comes) elsewhere
  case limited => exact sound.limited
  case granted => exact sound.booked.granted
  case goesOn => exact exists_turn
  case atMost => exact Nat.le_trans (Nat.le_add_left _ _) sound.work
  case ends =>
    intro nothing
    have resting := sound.idle room nothing
    have closes := sound.booked.closes
    simp only [whereabouts, underway, coming, nothing, resting.waiting, List.filterMap_nil,
      List.map_nil, List.nil_append, List.append_nil] at closes places
    exact ⟨resting, closes, places⟩

/-- A client gives its slots fairly, whatever happens first of what is due at the same moment, and what
it does of itself is one of the ways. -/
structure GivesFairly (serve : Server σ) (before : Client σ) (calls : List (Nat × Plan)) : Prop where
  always : ∀ ledger client, Runs serve (before.enter calls) ledger client →
    Fair before calls ledger client
  own : ∀ n, ∃ ledger, Runs serve (before.enter calls) ledger (runFor serve n (before.enter calls)) ∧
    ledger.begun = begunFor serve n (before.enter calls)
  ends : (run serve (before.enter calls)).agenda = []

theorem fair_slots (serve : Server σ) (before : Client σ) (calls : List (Nat × Plan))
    (idle : before.Idle) (room : 1 ≤ before.slots.capacity) : GivesFairly serve before calls where
  always _ _ runs := (sound_of_runs (sound_enter idle) runs).fair idle room
  own := exists_runs serve (before.enter calls)
  ends := agenda_run serve (before.enter calls)

/-- Three calls for one slot, and the first one has to try again. -/
theorem fair_slots_oneSlot :
    let serve : Server (List Reply) := fun replies _ =>
      (replies.headD ⟨0, .answered ⟨200, []⟩⟩, replies.tail)
    let client := Client.new [⟨40, .answered ⟨503, []⟩⟩, ⟨5000, .answered ⟨200, []⟩⟩] 1
    let plan : Plan :=
      { method := "GET", address := "https://example.org/", form := [], accept := "*/*"
        authorization := none, body := none, subject := none
        timeout := .ofReal (.ofInt 1), retries := 2 }
    client.Idle ∧ 1 ≤ client.slots.capacity ∧
      GivesFairly serve client [(0, plan), (0, plan), (10, plan)] := by
  intro serve client plan
  have idle : client.Idle := ⟨rfl, rfl, rfl⟩
  have room : 1 ≤ client.slots.capacity := Nat.le_refl 1
  exact ⟨idle, room, fair_slots serve client _ idle room⟩

end Fair

end Client

end DomainScout.Remote
