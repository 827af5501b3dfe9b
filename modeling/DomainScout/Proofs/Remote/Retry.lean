import DomainScout.Proofs.Remote.Client

/-!
# Retries

A call that never waits for a slot goes through its attempts one after another. At any moment it is
due to begin one, or one is under way, or it is over. So the attempts on record tell its course:
each one but the last called for another, which began after the wait, and the last one gave the
answer.

Main statement: `policy_kept`.
-/
namespace DomainScout.Remote

/-- An attempt of a call is the one with a number, began when it was due and was kept to its
limit. -/
structure Begun.IsNext (begun : Begun) (id : Nat) (plan : Plan) (number due : Nat) : Prop where
  call : begun.call = ⟨id, plan, number⟩
  begunAt : begun.begunAt = due
  timely : Timely plan begun.begunAt begun.reply begun.endsAt begun.outcome
  sent : begun.sent = plan.request.toOption.toList.map (Sent.mk begun.begunAt)

/-- Each attempt on record called for another one: when the next one is due. -/
inductive Leads (id : Nat) (plan : Plan) (entered : Nat) : List Begun → Nat → Prop
  | start : Leads id plan entered [] entered
  | again {log : List Begun} {due : Nat} {begun : Begun} (earlier : Leads id plan entered log due)
      (next : begun.IsNext id plan (log.length + 1) due) (passes : begun.outcome.mayPass = true)
      (more : log.length + 1 < plan.attempts) :
      Leads id plan entered (log ++ [begun]) (begun.endsAt + backoff (log.length + 1))

/-- How far a call can be: what is on the agenda for it, how it ended, and the attempts on
record. -/
inductive Stage (id : Nat) (plan : Plan) (entered : Nat) :
    Agenda ClientEvent → List Finished → List Begun → Prop
  | due {log : List Begun} {due : Nat} (leads : Leads id plan entered log due) :
      Stage id plan entered [⟨due, .arrive ⟨id, plan, log.length + 1⟩⟩] [] log
  | underWay {log : List Begun} {due : Nat} {begun : Begun} (leads : Leads id plan entered log due)
      (next : begun.IsNext id plan (log.length + 1) due) :
      Stage id plan entered [⟨begun.endsAt, .ended ⟨id, plan, log.length + 1⟩ begun.outcome⟩] []
        (log ++ [begun])
  | closed {log : List Begun} {due : Nat} {begun : Begun} (leads : Leads id plan entered log due)
      (next : begun.IsNext id plan (log.length + 1) due)
      (final : begun.outcome.mayPass = true → plan.attempts ≤ log.length + 1) :
      Stage id plan entered [] [⟨id, begun.endsAt, begun.outcome⟩] (log ++ [begun])

theorem Stage.length_le {id entered : Nat} {plan : Plan} {agenda : Agenda ClientEvent}
    {finished : List Finished} {log : List Begun}
    (stage : Stage id plan entered agenda finished log) : agenda.length ≤ 1 := by
  cases stage with
  | due | underWay => exact Nat.le_refl 1
  | closed => exact Nat.zero_le 1

namespace Client

variable {σ : Type}

/-- At no time of a run somebody with a number waits for a slot. -/
def NeverWaits (serve : Server σ) (id : Nat) (client : Client σ) : Prop :=
  ∀ n, ∀ call ∈ (runFor serve n client).slots.waiting, call.id ≠ id

/-- The attempts of the call with a number, among those on record. -/
def ofCall (id : Nat) (log : List Begun) : List Begun := log.filter fun begun => begun.call.id = id

/-- What is on the agenda for the call with a number. -/
def pending (client : Client σ) (id : Nat) : Agenda ClientEvent :=
  client.agenda.filter fun timed => timed.item.call.id = id

/-- How the call with a number ended, if it did. -/
def answers (client : Client σ) (id : Nat) : List Finished :=
  client.finished.filter fun finished => finished.id = id

/-- A client is at some stage of a call, and nothing on its agenda is overdue. -/
structure Follows (serve : Server σ) (id : Nat) (plan : Plan) (entered : Nat) (client : Client σ)
    (log : List Begun) : Prop where
  ahead : ∀ timed ∈ client.agenda, client.now ≤ timed.due
  stage : Stage id plan entered (client.pending id) (client.answers id) (ofCall id log)
  prompt : NeverWaits serve id client

section Turns

variable {serve : Server σ} {client turned after : Client σ} {event : ClientEvent}
  {begun : Option Begun} {id entered : Nat} {plan : Plan} {log : List Begun}

theorem NeverWaits.later (never : NeverWaits serve id client)
    (turn : client.turn? = some (event, turned)) (stepped : Stepped serve turned event begun after) :
    NeverWaits serve id after := by
  intro n
  have later := never (n + 1)
  rw [runFor_succ, turn] at later
  exact stepped.eq_step ▸ later

theorem ahead_conclude {call : Call} {outcome : Outcome}
    (ahead : ∀ timed ∈ client.agenda, client.now ≤ timed.due) :
    ∀ timed ∈ (client.conclude call outcome).agenda, client.now ≤ timed.due := by
  unfold conclude
  split
  · exact ahead
  next wait _ => simpa [Agenda.enter, or_imp, forall_and] using ahead

theorem ahead_start {call : Call} (ahead : ∀ timed ∈ client.agenda, client.now ≤ timed.due) :
    ∀ timed ∈ (start serve client call).agenda, client.now ≤ timed.due := by
  simpa [or_imp, forall_and] using ⟨ahead, le_endsAt call.plan serve client.server client.now⟩

theorem Turn.ahead (turn : client.Turn event turned)
    (ahead : ∀ timed ∈ client.agenda, client.now ≤ timed.due) :
    ∀ timed ∈ turned.agenda, turned.now ≤ timed.due := by
  -- The clock moves to what is due first.
  obtain ⟨agenda, first⟩ := turn
  intro other member
  apply Nat.max_le.mpr
  refine ⟨ahead other ?_, first other member⟩
  rw [agenda]
  simp at member ⊢
  tauto

theorem ahead_turned (turn : client.Turn event turned)
    (stepped : Stepped serve turned event begun after)
    (ahead : ∀ timed ∈ client.agenda, client.now ≤ timed.due) :
    ∀ timed ∈ after.agenda, after.now ≤ timed.due := by
  have now := turn.ahead ahead
  cases stepped with
  | begins => exact ahead_start now
  | waits => exact now
  | frees =>
    rw [now_conclude]
    exact ahead_conclude now
  | hands =>
    rw [now_conclude]
    exact ahead_conclude (ahead_start now)

/-! ### Turns of other calls -/

theorem stage_conclude_other {call : Call} {outcome : Outcome} (other : call.id ≠ id) :
    (client.conclude call outcome).pending id = client.pending id ∧
      (client.conclude call outcome).answers id = client.answers id := by
  unfold conclude
  split <;> simp [pending, answers, Agenda.enter, other]

theorem pending_start_other {call : Call} (other : call.id ≠ id) :
    (start serve client call).pending id = client.pending id := by
  simp [pending, other]

theorem answers_start (call : Call) : (start serve client call).answers id = client.answers id := rfl

theorem ofCall_beginning_other {call : Call} (other : call.id ≠ id) :
    ofCall id (log ++ [client.beginning serve call]) = ofCall id log := by
  simp [ofCall, beginning, other]

/-- The turn of another call leaves a call where it is. -/
theorem stage_other (stepped : Stepped serve client event begun after) (other : event.call.id ≠ id)
    (nobody : ∀ call ∈ client.slots.waiting, call.id ≠ id) :
    after.pending id = client.pending id ∧ after.answers id = client.answers id ∧
      ofCall id (log ++ begun.toList) = ofCall id log := by
  cases stepped with
  | begins => exact ⟨pending_start_other other, rfl, ofCall_beginning_other other⟩
  | waits => exact ⟨rfl, rfl, by simp⟩
  | frees =>
    obtain ⟨pending, answers⟩ := stage_conclude_other other
    exact ⟨pending, answers, by simp⟩
  | @hands call next outcome rest first =>
    have apart : next.id ≠ id := nobody next (first ▸ List.mem_cons_self)
    obtain ⟨pending, answers⟩ := stage_conclude_other other
    refine ⟨pending.trans ?_, answers, ofCall_beginning_other apart⟩
    exact pending_start_other apart

/-! ### Turns of the call itself -/

theorem isNext_beginning (positive : plan.timeout.limit.Positive) (number : Nat) :
    (client.beginning serve ⟨id, plan, number⟩).IsNext id plan number client.now :=
  ⟨rfl, rfl, timely_attempt positive serve client.server client.now,
    sent_attempt positive serve client.server client.now⟩

theorem pending_start_self {call : Call} (own : call.id = id) :
    (start serve client call).pending id = client.pending id ++
      [⟨(client.beginning serve call).endsAt, .ended call (client.beginning serve call).outcome⟩] := by
  simp [pending, own]

theorem ofCall_beginning_self {call : Call} (own : call.id = id) :
    ofCall id (log ++ [client.beginning serve call]) =
      ofCall id log ++ [client.beginning serve call] := by
  simp [ofCall, beginning, own]

/-- A call that is due to begin an attempt begins it, unless it had to wait for a slot. -/
theorem stage_arrive (positive : plan.timeout.limit.Positive)
    (stepped : Stepped serve client (.arrive ⟨id, plan, (ofCall id log).length + 1⟩) begun after)
    (leads : Leads id plan entered (ofCall id log) client.now) (alone : client.pending id = [])
    (unanswered : client.answers id = []) (nobody : ∀ call ∈ after.slots.waiting, call.id ≠ id) :
    Stage id plan entered (after.pending id) (after.answers id) (ofCall id (log ++ begun.toList)) := by
  cases stepped with
  | begins =>
    have own : (⟨id, plan, (ofCall id log).length + 1⟩ : Call).id = id := rfl
    rw [Option.toList_some, ofCall_beginning_self own, pending_start_self own, answers_start]
    simp only [pending, answers] at alone unanswered ⊢
    rw [alone, unanswered]
    exact .underWay leads (isNext_beginning positive _)
  | waits =>
    -- Whoever would have to wait is the call itself.
    exact absurd rfl (nobody _ (List.mem_append_right _ List.mem_cons_self))

/-- A call is over after its last attempt, and otherwise due to begin the next one after the wait. -/
theorem stage_conclude_self {attempt : Begun} {earlier : List Begun} {due : Nat}
    (leads : Leads id plan entered earlier due) (next : attempt.IsNext id plan (earlier.length + 1) due)
    (now : client.now = attempt.endsAt) (alone : client.pending id = [])
    (unanswered : client.answers id = []) :
    Stage id plan entered
      ((client.conclude ⟨id, plan, earlier.length + 1⟩ attempt.outcome).pending id)
      ((client.conclude ⟨id, plan, earlier.length + 1⟩ attempt.outcome).answers id)
      (earlier ++ [attempt]) := by
  simp only [pending, answers] at alone unanswered ⊢
  -- The verdict asks for no more than this.
  by_cases again : attempt.outcome.mayPass = true ∧ earlier.length + 1 < plan.attempts
  · have verdict : plan.verdict (earlier.length + 1) attempt.outcome =
        .retry (backoff (earlier.length + 1)) := by
      simp [Plan.verdict, again]
    have due := Stage.due (leads.again next again.1 again.2)
    rw [List.length_append, List.length_singleton] at due
    simpa [conclude, verdict, Agenda.enter, alone, unanswered, now] using due
  · have verdict : plan.verdict (earlier.length + 1) attempt.outcome = .final := by
      simp only [Plan.verdict, Bool.and_eq_true, decide_eq_true_eq, if_neg again]
    have last : attempt.outcome.mayPass = true → plan.attempts ≤ earlier.length + 1 := by
      intro passes
      by_contra more
      exact again ⟨passes, by omega⟩
    simpa [conclude, verdict, alone, unanswered, now] using Stage.closed leads next last

/-- A call whose attempt ends is over, or due to begin the next one after the wait. -/
theorem stage_ended {attempt : Begun} {earlier : List Begun} {due : Nat}
    (stepped : Stepped serve client (.ended ⟨id, plan, earlier.length + 1⟩ attempt.outcome) begun after)
    (leads : Leads id plan entered earlier due) (next : attempt.IsNext id plan (earlier.length + 1) due)
    (now : client.now = attempt.endsAt) (logged : ofCall id log = earlier ++ [attempt])
    (alone : client.pending id = []) (unanswered : client.answers id = [])
    (nobody : ∀ call ∈ client.slots.waiting, call.id ≠ id) :
    Stage id plan entered (after.pending id) (after.answers id) (ofCall id (log ++ begun.toList)) := by
  cases stepped with
  | frees =>
    rw [Option.toList_none, List.append_nil, logged]
    exact stage_conclude_self leads next now alone unanswered
  | @hands _ other _ rest first =>
    -- The slot goes to another call, for this one does not wait.
    have apart : other.id ≠ id := nobody other (first ▸ List.mem_cons_self)
    rw [Option.toList_some, ofCall_beginning_other apart, logged]
    have still : (start serve { client with slots := { client.slots with waiting := rest } }
        other).pending id = [] := (pending_start_other apart).trans alone
    exact stage_conclude_self leads next now still unanswered

/-- The turn of a call takes it to its next stage. -/
theorem stage_self {due : Nat} (positive : plan.timeout.limit.Positive)
    (stage : Stage id plan entered [⟨due, event⟩] (client.answers id) (ofCall id log))
    (stepped : Stepped serve client event begun after) (now : client.now = due)
    (alone : client.pending id = []) (before : ∀ call ∈ client.slots.waiting, call.id ≠ id)
    (nobody : ∀ call ∈ after.slots.waiting, call.id ≠ id) :
    Stage id plan entered (after.pending id) (after.answers id) (ofCall id (log ++ begun.toList)) := by
  generalize answered : client.answers id = ended at stage
  generalize logged : ofCall id log = attempts at stage
  cases stage with
  | due leads =>
    subst logged
    exact stage_arrive positive stepped (now ▸ leads) alone answered nobody
  | underWay leads next => exact stage_ended stepped leads next now logged alone answered before

theorem Follows.next (follows : Follows serve id plan entered client log)
    (positive : plan.timeout.limit.Positive) (turn : client.turn? = some (event, turned))
    (stepped : Stepped serve turned event begun after) :
    Follows serve id plan entered after (log ++ begun.toList) := by
  obtain ⟨ahead, stage, never⟩ := follows
  have prompt := never.later turn stepped
  refine ⟨ahead_turned (turn_of_turn? turn) stepped ahead, ?_, prompt⟩
  obtain ⟨before, due, behind, agenda, rfl, first⟩ := split_of_turn? turn
  have now : max client.now due = due := by
    apply Nat.max_eq_right
    apply ahead ⟨due, event⟩
    simp [agenda]
  rw [pending, agenda, List.filter_append, List.filter_cons] at stage
  by_cases mine : event.call.id = id
  · -- What is on the agenda for the call is its one event, and nothing stands beside it.
    simp only [mine, decide_true, if_true] at stage
    have single := stage.length_le
    simp only [List.length_append, List.length_cons] at single
    have early : before.filter (fun timed => timed.item.call.id = id) = [] :=
      List.eq_nil_of_length_eq_zero (by omega)
    have late : behind.filter (fun timed => timed.item.call.id = id) = [] :=
      List.eq_nil_of_length_eq_zero (by omega)
    rw [early, late] at stage
    let turned : Client σ := { client with agenda := before ++ behind, now := max client.now due }
    have alone : turned.pending id = [] := by
      rw [pending, List.filter_append, early, late, List.append_nil]
    exact @stage_self _ _ turned _ _ _ _ _ _ _ _ positive stage stepped now alone (never 0) (prompt 0)
  · obtain ⟨pending', answers', logged⟩ := stage_other stepped mine (never 0)
    rw [pending', answers', logged]
    simp only [mine, decide_false, Bool.false_eq_true, if_false, ← List.filter_append] at stage
    exact stage

end Turns

/-! ### What a course of attempts comes to -/

end Client

/-- A number is that of the first outcome after which there is no other attempt, counted from one. -/
structure Stops (most : Nat) (outcomes : Nat → Outcome) (number : Nat) : Prop where
  positive : 1 ≤ number
  atMost : number ≤ most
  earlier : ∀ i, i + 1 < number → (outcomes i).Retryable
  last : number < most → ¬ (outcomes (number - 1)).Retryable

theorem Stops.unique {most a b : Nat} {outcomes : Nat → Outcome} (first : Stops most outcomes a)
    (second : Stops most outcomes b) : a = b := by
  -- After the lesser of two there would have to be another attempt, and none.
  rcases Nat.lt_trichotomy a b with less | equal | more
  · have positive := first.positive
    refine absurd (second.earlier (a - 1) (by omega)) (first.last ?_)
    exact Nat.lt_of_lt_of_le less second.atMost
  · exact equal
  · have positive := second.positive
    refine absurd (first.earlier (b - 1) (by omega)) (second.last ?_)
    exact Nat.lt_of_lt_of_le more first.atMost

/-- The attempts of a call that came at some moment follow one another, each kept to its limit. -/
structure Course (id : Nat) (plan : Plan) (entered : Nat) (log : List Begun) : Prop where
  /-- They are numbered from one. -/
  number : ∀ (i : Nat) (begun : Begun), log[i]? = some begun → begun.call = ⟨id, plan, i + 1⟩
  first : ∀ begun : Begun, log[0]? = some begun → begun.begunAt = entered
  /-- Between two of them lies the wait. -/
  apart : ∀ (i : Nat) (earlier later : Begun), log[i]? = some earlier → log[i + 1]? = some later →
    later.begunAt = earlier.endsAt + 250 * 2 ^ i
  timely : ∀ begun ∈ log, Timely plan begun.begunAt begun.reply begun.endsAt begun.outcome
  /-- With each of them the request is sent once, if it can be sent at all. -/
  sent : ∀ begun ∈ log, begun.sent = plan.request.toOption.toList.map (Sent.mk begun.begunAt)

section Course

variable {id entered due : Nat} {plan : Plan} {log : List Begun}

/-- Another attempt may end otherwise for each attempt on record, and there is one left. -/
theorem Leads.retryable (leads : Leads id plan entered log due) :
    (∀ begun ∈ log, begun.outcome.mayPass = true) ∧ log.length < plan.attempts := by
  induction leads with
  | start => exact ⟨by simp, Nat.lt_of_lt_of_le Nat.one_pos (Nat.le_max_left _ _)⟩
  | @again log due begun earlier next passes more ih =>
    refine ⟨?_, by simpa using more⟩
    simpa [or_imp, forall_and, passes] using ih.1

theorem Leads.due_eq (leads : Leads id plan entered log due) :
    (log = [] ∧ due = entered) ∨ ∃ earlier begun, log = earlier ++ [begun] ∧
      due = begun.endsAt + 250 * 2 ^ earlier.length := by
  cases leads with
  | start => exact .inl ⟨rfl, rfl⟩
  | again => exact .inr ⟨_, _, rfl, rfl⟩

theorem getElem?_snoc {begun other : Begun} {i : Nat} (here : (log ++ [begun])[i]? = some other) :
    (log[i]? = some other ∧ i < log.length) ∨ (i = log.length ∧ other = begun) := by
  rw [List.getElem?_append] at here
  split at here
  next inside => exact .inl ⟨here, inside⟩
  next outside =>
    rw [List.getElem?_singleton] at here
    split at here
    next last => exact .inr ⟨by omega, (Option.some.inj here).symm⟩
    next => cases here

theorem Course.snoc {begun : Begun} (course : Course id plan entered log)
    (leads : Leads id plan entered log due) (next : begun.IsNext id plan (log.length + 1) due) :
    Course id plan entered (log ++ [begun]) := by
  constructor
  case number =>
    intro i other here
    rcases getElem?_snoc here with ⟨before, -⟩ | ⟨rfl, rfl⟩
    · exact course.number i other before
    · exact next.call
  case first =>
    intro other here
    rcases getElem?_snoc here with ⟨before, -⟩ | ⟨empty, rfl⟩
    · exact course.first other before
    · rw [next.begunAt]
      rcases leads.due_eq with ⟨-, due⟩ | ⟨earlier, last, rfl, -⟩
      · exact due
      · simp at empty
  case apart =>
    intro i earlier later before here
    rcases getElem?_snoc here with ⟨here, inside⟩ | ⟨last, rfl⟩
    · rw [List.getElem?_append_left (by omega)] at before
      exact course.apart i earlier later before here
    · rcases leads.due_eq with ⟨rfl, -⟩ | ⟨others, previous, rfl, due⟩
      · simp at last
      · -- The attempt before the new one is the last one on record, and the wait began at its end.
        simp only [List.length_append, List.length_singleton, Nat.add_right_cancel_iff] at last
        subst last
        simp only [List.append_assoc, List.getElem?_append_right (Nat.le_refl _), Nat.sub_self,
          List.cons_append, List.getElem?_cons_zero, Option.some.injEq] at before
        rw [next.begunAt, due, before]
  case timely =>
    simpa [or_imp, forall_and] using ⟨course.timely, next.timely⟩
  case sent =>
    simpa [or_imp, forall_and] using ⟨course.sent, next.sent⟩

theorem Leads.course (leads : Leads id plan entered log due) : Course id plan entered log := by
  induction leads with
  | start => constructor <;> simp
  | again earlier next _ _ ih => exact ih.snoc earlier next

/-- The attempts of a call that is over stop with the first one after which there is no other. -/
theorem Leads.stops {begun : Begun} {outcomes : Nat → Outcome}
    (leads : Leads id plan entered log due)
    (final : begun.outcome.mayPass = true → plan.attempts ≤ log.length + 1)
    (told : ∀ (i : Nat) (other : Begun), (log ++ [begun])[i]? = some other → outcomes i = other.outcome) :
    Stops plan.attempts outcomes (log ++ [begun]).length := by
  obtain ⟨retryable, more⟩ := leads.retryable
  rw [List.length_append, List.length_singleton]
  constructor
  case positive => exact Nat.le_add_left 1 _
  case atMost => exact more
  case earlier =>
    intro i inside
    have here : (log ++ [begun])[i]? = some log[i] := by
      rw [List.getElem?_append_left (by omega), List.getElem?_eq_getElem]
    rw [told i _ here, ← Outcome.mayPass_iff]
    exact retryable _ (List.getElem_mem _)
  case last =>
    intro less retry
    have here : (log ++ [begun])[log.length]? = some begun := by simp
    rw [Nat.add_sub_cancel, told _ _ here, ← Outcome.mayPass_iff] at retry
    exact absurd less (Nat.not_lt.mpr (final retry))

end Course

namespace Client

variable {σ : Type}

/-- What a policy comes to for the call with a number that comes to a client at some moment. -/
structure Policy (id : Nat) (plan : Plan) (entered : Nat) (before after : Client σ)
    (begun : List Begun) : Prop where
  /-- The call makes as many attempts as there are outcomes until there is no other attempt. -/
  stops (outcomes : Nat → Outcome) (number : Nat) : (∀ (i : Nat) (attempt : Begun),
    (ofCall id begun)[i]? = some attempt → outcomes i = attempt.outcome) →
      (Stops (max 1 (min plan.retries 2 + 1)).toNat outcomes number ↔
        (ofCall id begun).length = number)
  course : Course id plan entered (ofCall id begun)
  /-- The answer is that of the last attempt, when it ends. -/
  answer : ∃ last, (ofCall id begun).getLast? = some last ∧
    after.answers id = [⟨id, last.endsAt, last.outcome⟩]
  /-- An attempt that would run past the limit raises an error of its own. -/
  overdue : ∀ attempt ∈ ofCall id begun, plan.timeout.limit.OverrunBy attempt.reply.delay →
    plan.result attempt.outcome = .error (.problem (.overdue
      (plan.method ++ " " ++ plan.address ++ " timed out after " ++ plan.timeout.text ++ "s")))
  /-- The client counts the attempts of the call, beside those of other calls. -/
  granted : after.granted =
    before.granted + (ofCall id begun).length + (begun.filter fun attempt => attempt.call.id ≠ id).length
  /-- Without other calls it counts and sends nothing else. -/
  alone : (∀ timed ∈ before.agenda, timed.item.call.id = id) →
    after.granted = before.granted + (ofCall id begun).length ∧
      after.sent = before.sent ++ (ofCall id begun).flatMap Begun.sent

section Entering

variable {serve : Server σ} {client : Client σ} {id start : Nat} {plan : Plan}
  {calls : List (Nat × Plan)}

theorem filter_zipIdx {α : Type} {items : List α} {i : Nat} {item : α}
    (here : items[i]? = some item) (offset : Nat) :
    (items.zipIdx offset).filter (fun numbered => numbered.2 = offset + i) = [(item, offset + i)] := by
  induction items generalizing i offset with
  | nil => cases here
  | cons first items ih =>
    rw [List.zipIdx_cons, List.filter_cons]
    cases i with
    | zero =>
      have others : (items.zipIdx (offset + 1)).filter (fun numbered => numbered.2 = offset) = [] := by
        rw [List.filter_eq_nil_iff]
        intro numbered member
        have := List.le_snd_of_mem_zipIdx member
        simp
        omega
      cases here
      simpa using others
    | succ i =>
      have rest := ih here (offset + 1)
      rw [Nat.add_assoc, Nat.add_comm 1 i] at rest
      simpa using rest

theorem pending_enter (idle : client.agenda = []) (called : calls[id]? = some (start, plan)) :
    (client.enter calls).pending id = [⟨client.now + start, .arrive ⟨id, plan, 1⟩⟩] := by
  have only : calls.zipIdx.filter (fun numbered => numbered.2 = id) = [((start, plan), id)] := by
    simpa using filter_zipIdx called 0
  simp only [pending, enter, idle, List.nil_append, List.filter_map]
  change (calls.zipIdx.filter fun numbered => numbered.2 = id).map _ = _
  rw [only]
  rfl

theorem ahead_enter (idle : client.agenda = []) (calls : List (Nat × Plan)) :
    ∀ timed ∈ (client.enter calls).agenda, (client.enter calls).now ≤ timed.due := by
  intro timed member
  simp only [enter, idle, List.nil_append, List.mem_map] at member
  obtain ⟨_, -, rfl⟩ := member
  exact Nat.le_add_right _ _

theorem follows_enter (idle : client.agenda = []) (called : calls[id]? = some (start, plan))
    (prompt : NeverWaits serve id (client.enter calls)) :
    Follows serve id plan (client.now + start) (client.enter calls) [] := by
  refine ⟨ahead_enter idle calls, ?_, prompt⟩
  rw [pending_enter idle called]
  exact .due .start

theorem attempts_eq (plan : Plan) : plan.attempts = (max 1 (min plan.retries 2 + 1)).toNat := by
  simp only [Plan.attempts, maxRetries]
  omega

/-- Nobody waits as long as there is room for everybody. -/
theorem neverWaits_of_roomy (roomy : (client.enter calls).Roomy) :
    NeverWaits serve id (client.enter calls) := by
  intro n call waits
  rw [(roomy.runFor n).nobody] at waits
  cases waits

/-- The policy is kept for every call that never waits for a slot, whatever else the client does. -/
theorem policy_kept (serve : Server σ) (client : Client σ) (calls : List (Nat × Plan))
    (id start : Nat) (plan : Plan) (idle : client.agenda = [] ∧ client.slots.waiting = [])
    (called : calls[id]? = some (start, plan)) (positive : plan.timeout.limit.Positive)
    (prompt : NeverWaits serve id (client.enter calls)) :
    Policy id plan (client.now + start) (client.enter calls) ((client.enter calls).run serve)
      ((client.enter calls).begun serve) := by
  have follows : Follows serve id plan (client.now + start) ((client.enter calls).run serve)
      ((client.enter calls).begun serve) :=
    after_turns (fun follows turn stepped => follows.next positive turn stepped)
      (follows_enter idle.1 called prompt) _
  have recorded : Recorded (client.enter calls) ((client.enter calls).run serve)
    ((client.enter calls).begun serve) := recorded _
  have stage := follows.stage
  -- Nothing is left on the agenda at the end of a run, so the call is over.
  rw [pending, agenda_run, List.filter_nil] at stage
  generalize logged : ofCall id ((client.enter calls).begun serve) = attempts at stage
  generalize answered : Client.answers _ id = ended at stage
  obtain _ | _ | @⟨log, due, last, leads, next, final⟩ := stage
  have course := leads.course.snoc leads next
  constructor
  case stops =>
    intro outcomes number told
    rw [logged] at told ⊢
    rw [← attempts_eq]
    have stops := leads.stops final told
    exact ⟨fun other => stops.unique other, fun same => same ▸ stops⟩
  case course => exact logged ▸ course
  case answer => exact ⟨last, by simp [logged], answered⟩
  case overdue =>
    intro attempt member late
    rw [(course.timely attempt (logged ▸ member)).late late]
    rfl
  case granted =>
    rw [recorded.granted,
      List.length_eq_length_filter_add fun attempt : Begun => decide (attempt.call.id = id)]
    simp [ofCall, Nat.add_assoc]
  case alone =>
    intro alone
    have concerns : (client.enter calls).Concerns fun call => call.id = id :=
      ⟨alone, by simp [enter, idle.2]⟩
    have own : ofCall id ((client.enter calls).begun serve) = (client.enter calls).begun serve := by
      apply List.filter_eq_self.mpr
      simpa [begun] using begunFor_of_concerns (fun _ own => own) concerns _
    rw [own]
    exact ⟨recorded.granted, recorded.sent⟩

/-- The first call is retried twice at most, however often it may be, and the second one never. -/
theorem policy_kept_twoCalls :
    let serve : Server (List Reply) := fun replies _ =>
      (replies.headD ⟨0, .answered ⟨200, []⟩⟩, replies.tail)
    let client := Client.new [⟨40, .answered ⟨503, []⟩⟩, ⟨5000, .answered ⟨200, []⟩⟩] 2
    let plan : Plan :=
      { method := "GET", address := "https://example.org/", form := [], accept := "*/*"
        authorization := none, body := none, subject := none
        timeout := .ofReal (.ofInt 1), retries := 5 }
    let calls := [(0, plan), (100, { plan with retries := -3 })]
    plan.timeout.limit.Positive ∧ NeverWaits serve 0 (client.enter calls) ∧
      Policy 0 plan 0 (client.enter calls) ((client.enter calls).run serve)
        ((client.enter calls).begun serve) := by
  have second : (Binary64.ofInt 1).place.atMost (.at 0) = false := by decide +kernel
  have positive := Limit.positive_ofReal second
  intro serve client plan calls
  have roomy : (client.enter calls).Roomy := by
    constructor
    · rfl
    · simp [trying, enter, client, calls, Client.new, Slots.free]
    · simp [arriving, enter, client, calls, Client.new, Slots.free]
  have prompt : NeverWaits serve 0 (client.enter calls) := neverWaits_of_roomy roomy
  exact ⟨positive, prompt, policy_kept serve client calls 0 0 plan ⟨rfl, rfl⟩ rfl positive prompt⟩

end Entering

end Client

end DomainScout.Remote
