import DomainScout.Remote.Archive
import DomainScout.Remote.Reputation
import DomainScout.Text.Part

/-!
# Scripted services

A script says, for every kind of request, what the first, the second and any later request of that
kind get. The last reply of a kind repeats. A kind may have replies of its own for one domain, and
these are counted on their own.
-/
namespace DomainScout.Remote

/-- Replies by kind of request. -/
structure Script where
  replies : List (String × List Reply)
  /-- How many requests each kind has had. -/
  served : List (String × Nat)

namespace Script

/-- A script of which nothing has been played. -/
def ofReplies (replies : List (String × List Reply)) : Script := ⟨replies, []⟩

/-- A path ends in some text. -/
def endsIn (path : List Char) (ending : String) : Bool := ending.toList.reverse.isPrefixOf path.reverse

/-- The kind of a request, by its path. -/
def kindOf (request : Request) : String :=
  let path := (Text.unquote request.url.path).toList
  if endsIn path Reputation.loginPath then "login"
  else if Text.occursIn Reputation.lookupPath.toList path then "lookup"
  else if endsIn path "/available" then "availability"
  else if endsIn path "/cdx" then "cdx"
  else "any"

/-- The domain that a request of some kind is about. -/
def subjectOf? (request : Request) (kind : String) : Option String :=
  if kind = "any" then none else request.subject

/-- The key of a request's replies: its kind and domain if there are any for these, or its kind. -/
def keyOf (script : Script) (request : Request) : String :=
  let kind := kindOf request
  match subjectOf? request kind with
  | none => kind
  | some domain =>
    let key := kind ++ " " ++ domain
    if (script.replies.lookup key).isSome then key else kind

/-- What a request gets for which there is nothing in the script. -/
def notFound : Reply := ⟨0, .answered ⟨404, []⟩⟩

/-- The reply at a place, the last one for places beyond the end. -/
def replyAt (replies : List Reply) (place : Nat) : Reply :=
  (replies[place]?.or replies.getLast?).getD notFound

/-- Play the next reply to a request. -/
def serve : Server Script := fun script request =>
  let key := script.keyOf request
  let count := (script.served.lookup key).getD 0
  let reply := replyAt ((script.replies.lookup key).getD []) count
  (reply, { script with served := (key, count + 1) :: script.served.filter (·.1 != key) })

end Script

end DomainScout.Remote
