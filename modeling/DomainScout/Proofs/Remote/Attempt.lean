import DomainScout.Remote.Plan
import DomainScout.Proofs.Number.Rounding

/-!
# Single attempts

An attempt under a limit that leaves some time takes as long as its reply, but no longer than the
limit. If the reply takes longer, the attempt is overdue; if it comes earlier, the attempt ends with
it. Another attempt may end otherwise after server errors, after too many requests, after faults in
the transport, and when an attempt was overdue.

Main statement: `timely_attempt`.
-/
namespace DomainScout.Remote

/-! ### Limits -/

namespace Limit

/-- The limit leaves some time. -/
inductive Positive : Limit → Prop
  | within {units : Nat} (some : 0 < units) : Positive (.within units)
  | unlimited : Positive .unlimited

/-- Something that takes some milliseconds runs past the limit. -/
def OverrunBy (limit : Limit) (milliseconds : Nat) : Prop :=
  match limit with
  | within units => units * 1000 < milliseconds * Binary64.unit
  | spent | unlimited | unusable _ => False

/-- The limit is reached exactly after some milliseconds. -/
def ReachedBy (limit : Limit) (milliseconds : Nat) : Prop :=
  match limit with
  | within units => units * 1000 = milliseconds * Binary64.unit
  | spent | unlimited | unusable _ => False

/-- The lesser one of some milliseconds and the limit. -/
def least (limit : Limit) (milliseconds : Nat) : Nat :=
  match limit with
  | within _ => min milliseconds limit.milliseconds
  | spent | unlimited | unusable _ => milliseconds

/-- Seconds above zero leave some time. -/
theorem positive_ofReal {seconds : Binary64} (above : seconds.place.atMost (.at 0) = false) :
    (Timeout.ofReal seconds).limit.Positive := by
  change (ofReal seconds).Positive
  cases seconds with
  | nan => exact .within Nat.one_pos
  | infinite negative =>
    cases negative with
    | false => exact .unlimited
    | true => cases above
  | finite negative significand exponent canonical =>
    cases negative with
    | false =>
      -- What is no zero counts some units, whatever its exponent.
      have nonzero : significand ≠ 0 := by
        rintro rfl
        simp [Binary64.place, Binary64.units, Binary64.magnitude, Binary64.signed, Place.atMost] at above
      have some : 0 < significand * 2 ^ exponent :=
        Nat.mul_pos (Nat.pos_of_ne_zero nonzero) (Nat.two_pow_pos exponent)
      simpa [ofReal, Binary64.isZero, nonzero, Binary64.magnitude] using Positive.within some
    | true =>
      simp [Binary64.place, Binary64.units, Binary64.magnitude, Binary64.signed, Place.atMost] at above

variable {limit : Limit} {delay : Nat}

theorem allows_iff (positive : limit.Positive) :
    limit.allows delay = true ↔ ¬ limit.OverrunBy delay ∧ ¬ limit.ReachedBy delay := by
  cases limit with
  | spent | unusable => cases positive
  | unlimited => simp [allows, OverrunBy, ReachedBy]
  | within units =>
    simp only [allows, OverrunBy, ReachedBy, decide_eq_true_eq]
    generalize delay * Binary64.unit = taken
    omega

theorem least_of_allows (allowed : limit.allows delay = true) : limit.least delay = delay := by
  cases limit with
  | spent | unusable => cases allowed
  | unlimited => rfl
  | within units =>
    have early : delay * Binary64.unit < units * 1000 := of_decide_eq_true allowed
    have below : Binary64.unit * delay ≤ units * 1000 := by
      rw [Nat.mul_comm]
      exact Nat.le_of_lt early
    have rounded : delay ≤ Binary64.roundQuotient (units * 1000) Binary64.unit :=
      Binary64.le_roundQuotient Binary64.unit_pos below
    exact Nat.min_eq_left rounded

theorem least_of_not_allows (positive : limit.Positive) (late : limit.allows delay = false) :
    limit.least delay = limit.milliseconds := by
  cases limit with
  | spent | unusable => cases positive
  | unlimited => cases late
  | within units =>
    have reached : units * 1000 ≤ Binary64.unit * delay := by
      rw [Nat.mul_comm Binary64.unit]
      exact Nat.le_of_not_lt (of_decide_eq_false late)
    apply Nat.min_eq_right
    -- The reply comes at a whole millisecond, so rounding does not take the limit past it.
    calc Binary64.roundQuotient (units * 1000) Binary64.unit
        ≤ Binary64.roundQuotient (Binary64.unit * delay) Binary64.unit :=
          Binary64.roundQuotient_mono _ reached
      _ ≤ delay := by
          rw [Binary64.roundQuotient, Nat.mul_mod_right, Nat.mul_div_cancel_left _ Binary64.unit_pos]
          simp [Binary64.unit_pos]

end Limit

/-! ### Outcomes -/

/-- Another attempt may end otherwise. -/
inductive Outcome.Retryable : Outcome → Prop
  | serverError {response : Response} (status : 500 ≤ response.status) :
    Retryable (.ended (.answered response))
  | throttled {response : Response} (status : response.status = 429) :
    Retryable (.ended (.answered response))
  | transport {fault : Fault} {message : String}
      (family : fault ∉ [.request, .tooManyRedirects, .decoding, .unspecified]) :
    Retryable (.ended (.failed fault message))
  | overdue : Retryable .overdue

theorem Outcome.mayPass_iff {outcome : Outcome} : outcome.mayPass = true ↔ outcome.Retryable := by
  constructor
  · intro passes
    cases outcome with
    | overdue => exact .overdue
    | ended ending =>
      cases ending with
      | answered response =>
        rcases Bool.or_eq_true_iff.mp passes with error | many
        · exact .serverError (of_decide_eq_true error)
        · exact .throttled (beq_iff_eq.mp many)
      | failed fault message =>
        apply Retryable.transport
        revert passes
        cases fault <;> simp [mayPass, Fault.mayPass]
      | crashed crash => cases passes
  · rintro (⟨status⟩ | ⟨status⟩ | ⟨family⟩ | _)
    · simp [mayPass, Response.mayPass, status]
    · simp [mayPass, Response.mayPass, status]
    next fault message =>
      revert family
      cases fault <;> simp [mayPass, Fault.mayPass]
    · rfl

/-! ### Attempts -/

variable {σ : Type} {serve : Server σ} {server : σ} {plan : Plan}

theorem Plan.of_request {request : Request} (planned : plan.request = .ok request) :
    request.method = Text.upper plan.method ∧ request.subject = plan.subject := by
  unfold Plan.request at planned
  simp only [bind, Except.bind] at planned
  split at planned
  · cases planned
  split at planned
  · cases planned
  split at planned
  · cases planned
  · cases planned
    exact ⟨rfl, rfl⟩

theorem server_send (request : Request) (limit : Limit) (now : Nat) :
    (request.send limit serve server now).server = (serve server request).2 := by
  unfold Request.send
  dsimp only
  split <;> rfl

theorem sent_send (request : Request) (limit : Limit) (now : Nat) :
    (request.send limit serve server now).sent = [⟨now, request⟩] := by
  unfold Request.send
  dsimp only
  split <;> rfl

/-- Services that reply the same are told apart by nothing but what becomes of them. -/
theorem send_of_reply {other : σ} {request : Request}
    (told : (serve other request).1 = (serve server request).1) (limit : Limit) (now : Nat) :
    request.send limit serve other now =
      { request.send limit serve server now with server := (serve other request).2 } := by
  unfold Request.send
  dsimp only
  rw [told]
  split <;> rfl

/-- What comes of an attempt that has all the time it needs. A request that cannot be sent fails at
once. -/
def Plan.reply (plan : Plan) (serve : Server σ) (server : σ) : Reply :=
  match plan.request with
  | .ok request =>
    let reply := (serve server request).1
    ⟨reply.delay, request.received reply.ending⟩
  | .error crash => ⟨0, .crashed crash⟩

/-- An attempt that began at some moment and gets a reply is kept to its limit. -/
structure Timely (plan : Plan) (begunAt : Nat) (reply : Reply) (endsAt : Nat) (outcome : Outcome) :
    Prop where
  lasts : endsAt = begunAt + plan.timeout.limit.least reply.delay
  late : plan.timeout.limit.OverrunBy reply.delay → outcome = .overdue
  inTime : ¬ plan.timeout.limit.OverrunBy reply.delay → ¬ plan.timeout.limit.ReachedBy reply.delay →
    outcome = .ended reply.ending

theorem timely_at_once (now : Nat) (crash : Crash) :
    Timely plan now ⟨0, .crashed crash⟩ now (.ended (.crashed crash)) := by
  constructor
  case lasts =>
    cases within : plan.timeout.limit <;> simp [Limit.least]
  case late =>
    intro late
    cases within : plan.timeout.limit <;> simp [within, Limit.OverrunBy] at late
  case inTime => exact fun _ _ => rfl

/-- Whatever the services are like, an attempt sends the same request, or none and is over at once. -/
theorem Plan.attempt_cases (plan : Plan) (serve : Server σ) (now : Nat) :
    (∃ outcome, ∀ server, plan.attempt serve server now = ⟨server, [], now, outcome⟩) ∨
      ∃ request limit, plan.request = .ok request ∧
        ∀ server, plan.attempt serve server now = request.send limit serve server now := by
  unfold Plan.attempt
  cases plan.timeout.limit with
  | spent | unusable => exact .inl ⟨_, fun _ => rfl⟩
  | within | unlimited =>
    cases plan.request with
    | error crash => exact .inl ⟨_, fun _ => rfl⟩
    | ok request => exact .inr ⟨request, _, rfl, fun _ => rfl⟩

theorem le_endsAt (plan : Plan) (serve : Server σ) (server : σ) (now : Nat) :
    now ≤ (plan.attempt serve server now).endsAt := by
  rcases plan.attempt_cases serve now with ⟨outcome, same⟩ | ⟨request, limit, -, same⟩
  · rw [same]
  · rw [same]
    unfold Request.send
    dsimp only
    split <;> exact Nat.le_add_right _ _

section Positive

variable (positive : plan.timeout.limit.Positive)
include positive

/-- With some time, an attempt fails at once or sends its request under the limit. -/
theorem attempt_eq (serve : Server σ) (server : σ) (now : Nat) :
    plan.attempt serve server now = match plan.request with
      | .ok request => request.send plan.timeout.limit serve server now
      | .error crash => ⟨server, [], now, .ended (.crashed crash)⟩ := by
  unfold Plan.attempt
  cases within : plan.timeout.limit with
  | spent | unusable =>
    rw [within] at positive
    cases positive
  | unlimited | within => rfl

theorem timely_send (request : Request) (serve : Server σ) (server : σ) (now : Nat) :
    Timely plan now
      ⟨(serve server request).1.delay, request.received (serve server request).1.ending⟩
      (request.send plan.timeout.limit serve server now).endsAt
      (request.send plan.timeout.limit serve server now).outcome := by
  unfold Request.send
  cases allowed : plan.timeout.limit.allows (serve server request).1.delay with
  | true =>
    have least := Limit.least_of_allows allowed
    have inside := (Limit.allows_iff positive).mp allowed
    constructor
    case lasts => simp [allowed, least]
    case late => exact fun late => absurd late inside.1
    case inTime => simp [allowed]
  | false =>
    have least := Limit.least_of_not_allows positive allowed
    constructor
    case lasts => simp [allowed, least]
    case late => simp [allowed]
    case inTime =>
      intro early apart
      rw [(Limit.allows_iff positive).mpr ⟨early, apart⟩] at allowed
      cases allowed

/-- With some time, a request that can be sent is sent when the attempt begins. -/
theorem sent_attempt (serve : Server σ) (server : σ) (now : Nat) :
    (plan.attempt serve server now).sent = plan.request.toOption.toList.map (Sent.mk now) := by
  rw [attempt_eq positive]
  cases plan.request with
  | error crash => rfl
  | ok request => exact sent_send request plan.timeout.limit now

theorem timely_attempt (serve : Server σ) (server : σ) (now : Nat) :
    Timely plan now (plan.reply serve server) (plan.attempt serve server now).endsAt
      (plan.attempt serve server now).outcome := by
  rw [attempt_eq positive]
  unfold Plan.reply
  cases plan.request with
  | error crash => exact timely_at_once now crash
  | ok request => exact timely_send positive request serve server now

end Positive

end DomainScout.Remote
