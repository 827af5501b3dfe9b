import DomainScout.Remote.Message
import DomainScout.Text.Base64
import DomainScout.Text.Case.Upper
import DomainScout.Url.Reading
import DomainScout.Value.Display

/-!
# Retries and deadlines

Every attempt to send a request has a deadline. An attempt that fails in a way that may pass is
followed by another one, a limited number of times, after a wait that doubles every time. When no
attempt is left, the last outcome stands.
-/
namespace DomainScout.Remote

/-- How long an attempt may take. -/
inductive Limit where
  /-- The time is up before the attempt begins. -/
  | spent
  /-- A number of seconds that is not zero, counted in the units of binary64 numbers. -/
  | within (units : Nat)
  | unlimited
  /-- The limit is no number of seconds. -/
  | unusable (fault : NumberFault)
  deriving DecidableEq

namespace Limit

/-- The limit of a number of seconds. What is not a number is the least limit there is. -/
def ofReal : Binary64 → Limit
  | .nan => within 1
  | .infinite negative => if negative then spent else unlimited
  | x@(.finite negative _ _ _) => if negative || x.isZero then spent else within x.magnitude

/-- The limit of a reading of seconds. -/
def ofReading : Except NumberFault Binary64 → Limit
  | .ok x => ofReal x
  | .error fault => unusable fault

/-- The limit of a value in seconds; without a value there is no limit. A text is no number of
seconds, whatever it spells, and time that is up needs no reading. -/
def ofValue : Value → Limit
  | .null => unlimited
  | .text _ | .ragged _ => unusable .wrongType
  | .int n => if n ≤ 0 then spent else ofReading (Value.realOfInt n)
  | v => ofReading v.toReal

/-- Something that takes some milliseconds ends before a limit. -/
def allows (limit : Limit) (milliseconds : Nat) : Bool :=
  match limit with
  | spent | unusable _ => false
  | within units => milliseconds * Binary64.unit < units * 1000
  | unlimited => true

/-- The milliseconds of a limit, to the nearest one. -/
def milliseconds : Limit → Nat
  | within units => Binary64.roundQuotient (units * 1000) Binary64.unit
  | spent | unlimited | unusable _ => 0

end Limit

/-- A time limit. -/
structure Timeout where
  limit : Limit
  /-- The limit in seconds as text. -/
  text : String

/-- The time limit of a value in seconds. -/
def Timeout.ofValue (seconds : Value) : Timeout := ⟨.ofValue seconds, seconds.display⟩

/-- The time limit of a number of seconds. -/
def Timeout.ofReal (seconds : Binary64) : Timeout := .ofValue (.real seconds)

/-- A request as it is asked for, with its policy. -/
structure Plan where
  method : String
  /-- Where the request goes; messages tell it as it is. -/
  address : String
  /-- The values that are put into the query. -/
  form : List (String × String)
  /-- What kind of body is accepted. -/
  accept : String
  /-- The credentials that are sent along, unless the address holds some. -/
  authorization : Option String
  body : Option String
  /-- The domain that the request is about. -/
  subject : Option String
  timeout : Timeout
  /-- How often to try again; no more than the greatest number allowed. -/
  retries : Int

/-- What a caller has to deal with when a request does not succeed. -/
inductive Problem where
  | fault (fault : Fault) (message : String)
  | overdue (message : String)
  | loginRefused (message : String)

namespace Problem

/-- The message, which may be empty. -/
def message : Problem → String
  | .fault _ message | .overdue message | .loginRefused message => message

/-- The name of the kind of problem. -/
def name : Problem → String
  | .fault f _ => f.name
  | .overdue _ => "RequestTimeoutError"
  | .loginRefused _ => "LoginError"

/-- What to tell about a problem: its message, or its name if there is none. -/
def describe (problem : Problem) : String :=
  if problem.message = "" then problem.name else problem.message

end Problem

/-- Why a call did not succeed. -/
inductive CallError where
  | problem (problem : Problem)
  | crash (crash : Crash)

/-- What follows an attempt. -/
inductive Verdict where
  /-- The outcome stands. -/
  | final
  /-- Try again after some milliseconds. -/
  | retry (wait : Nat)
  deriving DecidableEq

/-- The outcome may be another one next time. -/
def Outcome.mayPass : Outcome → Bool
  | .ended (.answered response) => response.mayPass
  | .ended (.failed fault _) => fault.mayPass
  | .ended (.crashed _) => false
  | .overdue => true

/-- The most retries that any request gets. -/
def maxRetries : Int := 2

/-- Milliseconds to wait after an attempt, the first one being number one. -/
def backoff (attempt : Nat) : Nat := 250 * Nat.pow 2 (attempt - 1)

namespace Plan

/-- How often a request is sent at most: at least once. -/
def attempts (plan : Plan) : Nat := max 1 (min plan.retries maxRetries + 1).toNat

/-- What follows the attempt with a number. -/
def verdict (plan : Plan) (attempt : Nat) (outcome : Outcome) : Verdict :=
  if outcome.mayPass && attempt < plan.attempts then .retry (backoff attempt) else .final

/-- What is told when the deadline came first. -/
def overdueMessage (plan : Plan) : String :=
  plan.method ++ " " ++ plan.address ++ " timed out after " ++ plan.timeout.text ++ "s"

/-- A header holds ASCII characters only. -/
def sendable (header : String) : Bool := header.toList.all fun c => c.toNat < 0x80

/-- The credentials of a name and a password. -/
def basicCredentials (name password : String) : String :=
  "Basic " ++ String.ofList (Text.Base64.encode (Text.Utf8.encode (name ++ ":" ++ password)))

/-- The request that is sent, or why nothing can be sent. -/
def request (plan : Plan) : Except Crash Request := do
  let url ← ((Url.read plan.address).bind Url.target).mapError fun _ => Crash.invalidUrl
  if !plan.authorization.all sendable then throw .unsendable
  let url ← (url.withForm plan.form).mapError fun _ => Crash.invalidUrl
  return {
    method := Text.upper plan.method
    url
    accept := plan.accept
    authorization :=
      (url.login?.map fun (name, password) => basicCredentials name password).or plan.authorization
    body := plan.body
    subject := plan.subject }

/-- What a final outcome means to the caller. -/
def result (plan : Plan) : Outcome → Except CallError Response
  | .ended (.answered response) => .ok response
  | .ended (.failed fault message) => .error (.problem (.fault fault message))
  | .ended (.crashed crash) => .error (.crash crash)
  | .overdue => .error (.problem (.overdue plan.overdueMessage))

end Plan

/-- An attempt that was started. -/
structure Attempt (σ : Type) where
  /-- The service after the attempt. -/
  server : σ
  /-- What was sent. -/
  sent : List Sent
  /-- When the attempt ends. -/
  endsAt : Nat
  outcome : Outcome

/-- Send a request under a limit: it takes until it ends or until the time is up. -/
def Request.send {σ : Type} (request : Request) (limit : Limit) (serve : Server σ) (server : σ)
    (now : Nat) : Attempt σ :=
  let (reply, server) := serve server request
  let sent := [⟨now, request⟩]
  if limit.allows reply.delay then
    ⟨server, sent, now + reply.delay, .ended (request.received reply.ending)⟩
  else ⟨server, sent, now + limit.milliseconds, .overdue⟩

/-- Start an attempt. Nothing is sent without time for it, and a request that cannot be sent fails
at once. -/
def Plan.attempt {σ : Type} (plan : Plan) (serve : Server σ) (server : σ) (now : Nat) : Attempt σ :=
  match plan.timeout.limit with
  | .spent => ⟨server, [], now, .overdue⟩
  | .unusable fault => ⟨server, [], now, .ended (.crashed (.number fault))⟩
  | limit =>
    match plan.request with
    | .ok request => request.send limit serve server now
    | .error crash => ⟨server, [], now, .ended (.crashed crash)⟩

end DomainScout.Remote
