import DomainScout.Json.Writer
import DomainScout.Remote.Plan
import DomainScout.Text.Percent

/-!
# The reputation service

Spamhaus answers lookups to callers that carry a token, and gives out tokens to those who log in.
-/
namespace DomainScout.Remote.Reputation

/-- Where the service is, and how long it may take. -/
structure Site where
  /-- The address without slashes at its end. -/
  base : String
  timeout : Timeout

/-- The site at an address. -/
def Site.at (address : String) (timeout : Timeout) : Site :=
  ⟨String.ofList (Text.dropEndWhile (· == '/') address.toList), timeout⟩

/-- The kind of body that is asked for. -/
def acceptJson : String := "application/json"

/-- The path of logins. -/
def loginPath : String := "/api/v1/login"

/-- The path of lookups, which the domain follows. -/
def lookupPath : String := "/api/intel/v2/byobject/domain/"

/-- Log in. -/
def Site.loginPlan (site : Site) (user password : String) : Plan :=
  let body := Value.object [("username", .text user), ("password", .text password),
    ("realm", .text "intel")]
  ⟨"POST", site.base ++ loginPath, [], acceptJson, none, some (Json.compact body), none,
    site.timeout, 1⟩

/-- Look up a domain. -/
def Site.lookupPlan (site : Site) (domain token : String) : Plan :=
  ⟨"GET", site.base ++ lookupPath ++ Text.percentEncode domain, [], acceptJson,
    some ("Bearer " ++ token), none, some domain, site.timeout, 1⟩

/-- The first characters of a text. -/
def excerpt (count : Nat) (s : String) : String := String.ofList (s.toList.take count)

/-- A status and the start of the body, without blanks around them. -/
def statusText (response : Response) (count : Nat) : String :=
  Text.trim ("HTTP " ++ toString response.status ++ " " ++ excerpt count response.text)

/-- A login that failed for some reason. -/
def refused (reason : String) : Problem := .loginRefused ("Spamhaus login failed: " ++ reason)

/-- The data of a login that was answered: an object with a token. -/
def loginData (response : Response) : Except Problem Fields :=
  if response.isSuccess then
    match response.value with
    | .object fields =>
      if ((Value.lookup? "token" fields).getD .null).truthy then .ok fields
      else .error (refused "no token in response")
    | _ => .error (refused "no token in response")
  else .error (refused (statusText response 200))

/-- The data of a login. -/
def loginResult (plan : Plan) (outcome : Outcome) :
    Except CallError Fields := do
  let response ← plan.result outcome
  (loginData response).mapError .problem

end DomainScout.Remote.Reputation
