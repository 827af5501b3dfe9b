import DomainScout.Text.Percent

/-!
# URLs

A URL in parts. The parts are kept as they stand in the text of the URL, that is with escapes, so
that the text is put together without any further encoding.
-/
namespace DomainScout

/-- A URL. -/
structure Url where
  /-- The scheme in lower case; a relative URL has none. -/
  scheme : String
  /-- The name and password in front of the host, if there are any. -/
  userinfo : String
  host : String
  /-- The port, unless it is the one that the scheme implies. -/
  port : Option Int
  path : String
  query : Option String
  fragment : Option String
  deriving DecidableEq

/-- Why a text is no URL. -/
inductive UrlFault where
  /-- The text or a part of it is longer than a URL may be. -/
  | tooLong
  /-- A control stands in the text. -/
  | control
  | host
  | port
  | path
  deriving DecidableEq

namespace Url

/-- The host as it stands before the port: an address with colons stands in brackets. -/
def hostText (url : Url) : String :=
  if url.host.toList.contains ':' then "[" ++ url.host ++ "]" else url.host

/-- What stands between the scheme and the path. -/
def authority (url : Url) : String :=
  (if url.userinfo = "" then "" else url.userinfo ++ "@") ++ url.hostText
    ++ (match url.port with
      | some port => ":" ++ toString port
      | none => "")

/-- A part with its mark in front, if there is such a part. -/
def marked (mark : String) : Option String → String
  | some part => mark ++ part
  | none => ""

/-- The text of a URL. -/
def text (url : Url) : String :=
  (if url.scheme = "" then "" else url.scheme ++ ":")
    ++ (if url.authority = "" then "" else "//" ++ url.authority)
    ++ url.path ++ marked "?" url.query ++ marked "#" url.fragment

/-- The URL has a scheme and a host. -/
def isAbsolute (url : Url) : Bool := url.scheme != "" && url.host != ""

/-- The name and the password in front of the host, without escapes. -/
def login? (url : Url) : Option (String × String) :=
  let (name, rest) := url.userinfo.toList.span (· != ':')
  let name := Text.unquote (String.ofList name)
  let password := Text.unquote (String.ofList (rest.drop 1))
  if name = "" ∧ password = "" then none else some (name, password)

end Url

end DomainScout
