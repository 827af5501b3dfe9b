import DomainScout.Access.Token

/-!
# The token desk

Whoever needs a token asks at the desk. A fixed key is handed out at once, and so is a stored
token that is fresh. Otherwise the desk lets one client log in at a time and keeps the others
waiting in the order in which they came. When a login ends, the next in line gets the stored token
if it is fresh by now, and logs in if it is not.
-/
namespace DomainScout

/-- Where a token comes from. -/
inductive TokenSource where
  | apiKey
  | login
  | cachedLogin
  | missing
  deriving DecidableEq

/-- The name of a source. -/
def TokenSource.name : TokenSource → String
  | apiKey => "api_key"
  | login => "login"
  | cachedLogin => "login_cached"
  | missing => "missing"

/-- A token, if there is one, and where it comes from. -/
structure Grant where
  token : Option String
  source : TokenSource
  deriving DecidableEq

/-- The desk that hands out tokens to clients. -/
structure Desk (α : Type) where
  credentials : Credentials
  /-- The token of the last login, unless it was dropped. -/
  token : Option Token
  /-- Who is logging in. -/
  busy : Option α
  /-- Who waits, in the order of arrival. -/
  waiting : List α

/-- What the desk tells a client. -/
inductive Direction where
  | take (grant : Grant)
  | logIn (user password : String)
  | wait
  deriving DecidableEq

namespace Desk

variable {α : Type}

/-- A desk that has seen nobody. -/
def new (credentials : Credentials) : Desk α := ⟨credentials, none, none, []⟩

/-- The stored token if it is fresh. -/
def fresh? (desk : Desk α) (now : Int) : Option Token :=
  desk.token.filter (·.isFresh now Token.margin)

/-- A stored token, handed out. -/
def cached (token : Token) : Grant := ⟨some token.text, .cachedLogin⟩

/-- A client asks for a token. -/
def ask (desk : Desk α) (now : Int) (client : α) : Direction × Desk α :=
  match desk.credentials.key?, desk.credentials.login? with
  | some key, _ => (.take ⟨some key, .apiKey⟩, desk)
  | none, none => (.take ⟨none, .missing⟩, desk)
  | none, some (user, password) =>
    match desk.fresh? now with
    | some token => (.take (cached token), desk)
    | none =>
      if desk.busy.isNone && desk.waiting.isEmpty then
        (.logIn user password, { desk with busy := some client })
      else (.wait, { desk with waiting := desk.waiting ++ [client] })

/-- The first who waits has its turn, if nobody logs in: it takes the stored token if that is fresh
by now, and logs in if not. -/
def turn? (desk : Desk α) (now : Int) : Option ((α × Direction) × Desk α) :=
  match desk.busy, desk.waiting with
  | none, client :: rest =>
    match desk.fresh? now, desk.credentials.login? with
    | some token, _ => some ((client, .take (cached token)), { desk with waiting := rest })
    | none, some (user, password) =>
      some ((client, .logIn user password), { desk with busy := some client, waiting := rest })
    | none, none => none
  | _, _ => none

/-- Some turns at most, all at one moment: what those who waited are told. -/
def serve (now : Int) : Nat → Desk α → List (α × Direction) × Desk α
  | 0, desk => ([], desk)
  | n + 1, desk =>
    match desk.turn? now with
    | none => ([], desk)
    | some (told, desk) =>
      let (directions, desk) := serve now n desk
      (told :: directions, desk)

/-- A login ends, with a token if it succeeded. A login that failed leaves the stored token alone. -/
def close (desk : Desk α) (token : Option Token) : Desk α :=
  { desk with token := token.or desk.token, busy := none }

/-- A login ends and everyone has a turn who can: what those who waited are told. -/
def loggedIn (desk : Desk α) (now : Int) (token : Option Token) :
    List (α × Direction) × Desk α :=
  serve now desk.waiting.length (desk.close token)

/-- Drop the stored token. -/
def invalidate (desk : Desk α) : Desk α := { desk with token := none }

end Desk

end DomainScout
