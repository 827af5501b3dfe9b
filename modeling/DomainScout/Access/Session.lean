import DomainScout.Access.Desk

/-!
# Sessions at the desk

A session lets clients ask at the desk while a login service answers them. Logins follow one
another, since the desk lets one client log in at a time.
-/
namespace DomainScout.Access

/-- What a login comes to. -/
structure LoginReply where
  /-- How long it takes, in milliseconds. -/
  delay : Nat
  /-- The data of the login, or the message of its failure. -/
  result : Except String Fields

/-- Why a client gets no token. -/
inductive Refusal where
  | loginFailed (message : String)
  | crash (crash : Crash)

/-- What a client gets. -/
abbrev Answer := Except Refusal Grant

/-- A desk, its clock and its login service; clients are known by number. -/
structure Session where
  desk : Desk Nat
  /-- Milliseconds since the session began. -/
  now : Nat
  /-- What the clock of the desk shows when the session begins. -/
  epoch : Int
  /-- What the logins come to, in order; the last one repeats. -/
  replies : List LoginReply
  /-- How many logins were made. -/
  logins : Nat

namespace Session

/-- What the clock of the desk shows. -/
def clock (session : Session) : Int := session.epoch + session.now

/-- A login without particulars. -/
def plainReply : LoginReply := ⟨0, .ok [("token", .text "t")]⟩

/-- What the next login comes to. -/
def nextReply (session : Session) : LoginReply :=
  (session.replies[session.logins]?.or session.replies.getLast?).getD plainReply

/-- Make the login that is next. -/
def logIn (session : Session) : Answer × Option Token × Session :=
  let reply := session.nextReply
  let session := { session with now := session.now + reply.delay, logins := session.logins + 1 }
  match reply.result with
  | .error message => (.error (.loginFailed message), none, session)
  | .ok data =>
    match Token.ofLogin data session.clock with
    | .ok token => (.ok ⟨some token.text, .login⟩, some token, session)
    | .error crash => (.error (.crash crash), none, session)

/-- The answers among some directions. -/
def taken (directions : List (Nat × Direction)) : List (Nat × Answer) :=
  directions.filterMap fun (client, direction) =>
    match direction with
    | .take grant => some (client, .ok grant)
    | _ => none

/-- Let logins follow one another, at most some number of them: what the clients get. -/
def settle : Nat → Session → List (Nat × Answer) × Session
  | 0, session => ([], session)
  | n + 1, session =>
    match session.desk.busy with
    | none => ([], session)
    | some client =>
      let (answer, token, session) := session.logIn
      let (directions, desk) := session.desk.loggedIn session.clock token
      let (answers, session) := settle n { session with desk }
      ((client, answer) :: taken directions ++ answers, session)

/-- Clients ask, one after the other. -/
def askAll (session : Session) : List Nat → List (Nat × Answer) × Session
  | [] => ([], session)
  | client :: rest =>
    let (direction, desk) := session.desk.ask session.clock client
    let (answers, session) := askAll { session with desk } rest
    (taken [(client, direction)] ++ answers, session)

/-- Some clients ask at the same moment: what each gets. -/
def get (session : Session) (clients : List Nat) : List (Nat × Answer) × Session :=
  let (answers, session) := session.askAll clients
  let (later, session) := settle clients.length session
  (answers ++ later, session)

/-- Let time pass. -/
def advance (session : Session) (milliseconds : Nat) : Session :=
  { session with now := session.now + milliseconds }

/-- Drop the stored token. -/
def invalidate (session : Session) : Session := { session with desk := session.desk.invalidate }

end Session

end DomainScout.Access
