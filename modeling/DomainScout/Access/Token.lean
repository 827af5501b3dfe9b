import DomainScout.Crash
import DomainScout.Value.Display

/-!
# Access tokens

A login gives a token and, as a rule, the moment it expires, in seconds. A token counts as fresh
until a minute before that moment; without a moment it is taken to last twenty-three hours.
-/
namespace DomainScout

/-- A token and the moment it expires, in milliseconds. -/
structure Token where
  text : String
  expiresAt : Int
  deriving DecidableEq

namespace Token

/-- How long before its end a token stops being fresh. -/
def margin : Int := 60000

/-- How long a token lasts that does not say so. -/
def defaultLifetime : Int := 23 * 60 * 60 * 1000

/-- The token ends more than a margin after now. -/
def isFresh (token : Token) (now margin : Int) : Bool := now < token.expiresAt - margin

/-- The seconds at which a token expires; what is no number counts as zero. -/
def expirySeconds (data : Fields) : Except Crash Binary64 :=
  match (((Value.lookup? "expires" data).getD .null).orElse (.int 0)).toReal with
  | .ok seconds => .ok seconds
  | .error .outOfRange => .error (.number .outOfRange)
  | .error _ => .ok (.ofInt 0)

/-- The moment at which a token expires that was given now. -/
def expiry (data : Fields) (now : Int) : Except Crash Int := do
  let seconds ← expirySeconds data
  if seconds.isZero then return now + defaultLifetime
  else (Value.truncated (seconds.scale 1000)).mapError .number

/-- The token of a login. -/
def ofLogin (data : Fields) (now : Int) : Except Crash Token := do
  let expiresAt ← expiry data now
  match Value.lookup? "token" data with
  | some v => return ⟨v.display, expiresAt⟩
  | none => throw .missingField

end Token

/-- What a user has configured to get access. -/
structure Credentials where
  apiKey : Option String
  user : Option String
  password : Option String

namespace Credentials

/-- A fixed key, which needs no login. -/
def key? (credentials : Credentials) : Option String := credentials.apiKey.filter (· ≠ "")

/-- The name and password to log in with. -/
def login? (credentials : Credentials) : Option (String × String) :=
  match credentials.user.filter (· ≠ ""), credentials.password.filter (· ≠ "") with
  | some user, some password => some (user, password)
  | _, _ => none

end Credentials

end DomainScout
