import DomainScout.Number.Reading
import DomainScout.Url.Basic
import DomainScout.Url.International
import DomainScout.Url.Numeric

/-!
# Reading URLs

A text is read as a URL by its marks: a colon ends the scheme, two slashes start the authority, and
a question mark and a number sign start the query and the fragment. The parts are then put into
their one written form: scheme and host in lower case, no port that the scheme implies, no dot
segments in the path of a URL with a scheme or a host, and unsafe characters as escapes. Only ports
implied by a scheme in lower case are dropped.
-/
namespace DomainScout.Url

open Text

/-- The most characters of a URL, and of each part that is put into one. -/
def maxLength : Nat := 65536

/-- A control of ASCII. -/
def isAsciiControl (c : Char) : Bool := c.toNat < 0x20 || c.toNat == 0x7F

/-- A printable character of ASCII, blanks and some others apart. -/
def safeBut (others : String) (c : Char) : Bool :=
  0x20 < c.toNat && c.toNat < 0x7F && !others.toList.contains c

/-- A character that may stand in the fragment. -/
def isFragmentSafe : Char → Bool := safeBut "\"<>`"

/-- A character that may stand in the query. -/
def isQuerySafe : Char → Bool := safeBut "\"#<>"

/-- A character that may stand in the path. -/
def isPathSafe : Char → Bool := safeBut "\"#<>?`\x7b\x7d"

/-- A character that may stand in the userinfo. -/
def isUserinfoSafe : Char → Bool := safeBut "\"#<>?`\x7b\x7d/;=@[\\]^|"

/-- A character that may stand in a host of ASCII characters. -/
def isHostSafe (c : Char) : Bool := "!$&'()*+,;=\"`\x7b\x7d%|\\".toList.contains c

/-- A character of a scheme behind its first letter. -/
def isSchemeChar (c : Char) : Bool := c.isAlphanum || c == '+' || c == '.' || c == '-'

/-- A scheme with its colon, which is empty if there is none, and what follows. -/
def readScheme (cs : List Char) : List Char × List Char :=
  match cs with
  | ':' :: rest => ([], rest)
  | c :: _ =>
    match cs.span isSchemeChar with
    | (scheme, ':' :: rest) => if c.isAlpha then (scheme, rest) else ([], cs)
    | _ => ([], cs)
  | [] => ([], [])

/-- A character that ends the authority. -/
def endsAuthority (c : Char) : Bool := c == '/' || c == '?' || c == '#'

/-- An authority with its slashes, which is empty if there are none, and what follows. -/
def readAuthority (cs : List Char) : List Char × List Char :=
  match cs with
  | '/' :: '/' :: rest => rest.span (!endsAuthority ·)
  | _ => ([], cs)

/-- A part with its mark, up to characters that end it, and what follows. -/
def readMarked (mark : Char) (ends : Char → Bool) (cs : List Char) : Option (List Char) × List Char :=
  match cs with
  | c :: rest =>
    if c = mark then
      let (part, after) := rest.span (!ends ·)
      (some part, after)
    else (none, cs)
  | [] => (none, [])

/-- What stands before and after the last place of a character, if it has one. -/
def splitAtLast (mark : Char) (cs : List Char) : Option (List Char × List Char) :=
  match cs.reverse.span (· != mark) with
  | (after, _ :: before) => some (before.reverse, after.reverse)
  | (_, []) => none

/-- The userinfo of an authority, which ends at its last at sign, and what follows. -/
def splitUserinfo (authority : List Char) : List Char × List Char :=
  (splitAtLast '@' authority).getD ([], authority)

/-- The host and the port of an authority: a host in brackets, or anything up to a colon. -/
def splitPort (cs : List Char) : List Char × List Char :=
  let plain := cs.span (· != ':')
  let (host, rest) := match cs with
    | '[' :: _ =>
      match splitAtLast ']' cs with
      | some (before, after) => (before ++ [']'], after)
      | none => plain
    | _ => plain
  match rest with
  | ':' :: port => (host, port)
  | port => (host, port)

/-- The address inside brackets. -/
def bracketed? : List Char → Option (List Char)
  | '[' :: rest => if rest.getLast? = some ']' then some rest.dropLast else none
  | _ => none

/-- The one written form of a host. -/
def hostForm (host : List Char) : Except UrlFault (List Char) :=
  if host.isEmpty then .ok []
  else if looksNumeric host then (if isFourOctets host then .ok host else .error .host)
  else match bracketed? host with
    | some address => if isZonedGroups address then .ok address else .error .host
    | none =>
      if host.all (·.toNat < 0x80) then .ok (quote isHostSafe (host.map Char.toLower))
      else match internationalHost? host with
        | some host => .ok host
        | none => .error .host

/-- The port that a scheme implies. -/
def impliedPort? (scheme : String) : Option Int :=
  if scheme = "http" ∨ scheme = "ws" then some 80
  else if scheme = "https" ∨ scheme = "wss" then some 443
  else if scheme = "ftp" then some 21
  else none

/-- The port of a text, unless the scheme implies it. -/
def portForm (scheme : String) (port : List Char) : Except UrlFault (Option Int) :=
  if port.isEmpty then .ok none
  else match Number.readInt? port with
    | some n => .ok (if impliedPort? scheme = some n then none else some n)
    | none => .error .port

/-- Segments without dots, given those so far in reverse: one dot means the same place, and two
dots mean the place before, but nothing comes before the root. -/
def dropDots : List (List Char) → List (List Char) → List (List Char)
  | sofar, [] => sofar.reverse
  | sofar, segment :: rest =>
    if segment = ['.'] then dropDots sofar rest
    else if segment = ['.', '.'] then
      dropDots (if sofar = [[]] then sofar else sofar.drop 1) rest
    else dropDots (segment :: sofar) rest

/-- A path without dot segments. -/
def withoutDots (path : List Char) : List Char :=
  List.intercalate ['/'] (dropDots [] (pieces (· == '/') path))

/-- A path that may not follow on nothing: it would be read as something else. -/
def isMisleading (path : List Char) : Bool :=
  ['/', '/'].isPrefixOf path || [':'].isPrefixOf path

/-- A part in which unsafe characters are escaped. -/
def escaped (safe : Char → Bool) (part : List Char) : String := String.ofList (quote safe part)

/-- Put the parts of a URL together. -/
def ofParts (scheme authority path : List Char) (query fragment : Option (List Char)) :
    Except UrlFault Url := do
  let (userinfo, rest) := splitUserinfo authority
  let (host, port) := splitPort rest
  let host ← hostForm host
  let port ← portForm (String.ofList scheme) port
  let standsAlone := scheme.isEmpty && userinfo.isEmpty && host.isEmpty && port.isNone
  if standsAlone && isMisleading path then throw .path
  return {
    scheme := String.ofList (scheme.map Char.toLower)
    userinfo := escaped isUserinfoSafe userinfo
    host := String.ofList host
    port
    path := escaped isPathSafe (if standsAlone then path else withoutDots path)
    query := query.map (escaped isQuerySafe)
    fragment := fragment.map (escaped isFragmentSafe) }

/-- Read a URL. -/
def read (s : String) : Except UrlFault Url :=
  let cs := s.toList
  if maxLength < cs.length then .error .tooLong
  else if cs.any isAsciiControl then .error .control
  else
    let (scheme, rest) := readScheme cs
    let (authority, rest) := readAuthority rest
    let (path, rest) := rest.span fun c => c != '?' && c != '#'
    let (query, rest) := readMarked '?' (· == '#') rest
    ofParts scheme authority path query (readMarked '#' (fun _ => false) rest).1

/-- A URL whose parts are no longer than they may be. -/
def checked (url : Url) : Except UrlFault Url :=
  if url.path.length ≤ maxLength ∧ url.query.all (·.length ≤ maxLength) then .ok url
  else .error .tooLong

/-- The URL that a request for another one goes to: a URL without a host means a place under the
root, wherever that is. -/
def target (url : Url) : Except UrlFault Url :=
  if url.isAbsolute then .ok url
  else
    let path := '/' :: url.path.toList.dropWhile (· == '/')
    checked ⟨"", "", "", none, String.ofList path, url.query, none⟩

/-- A URL with the values of a form for its query. -/
def withForm (url : Url) (form : List (String × String)) : Except UrlFault Url :=
  if form.isEmpty then .ok url
  else
    let query := "&".intercalate (form.map fun (name, v) => name ++ "=" ++ formEncode v)
    checked { url with query := some query }

example : ((read "HTTPS://Q.test:443/a b/../c?d=\"e\"").map text).toOption
    = some "https://q.test:443/c?d=%22e%22" := by decide +kernel

example : ((read "https://u@q.test:443/é/..").map text).toOption = some "https://u@q.test" := by
  decide +kernel

end DomainScout.Url
