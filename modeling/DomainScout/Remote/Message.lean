import DomainScout.Crash
import DomainScout.Json.Octets
import DomainScout.Url.Basic

/-!
# Requests and responses

A request goes to an address and either is answered, with a status and a body of octets, or fails
on the way. Failures on the way that may pass are told apart from those that will not.
-/
namespace DomainScout.Remote

/-- A request. -/
structure Request where
  method : String
  url : Url
  /-- What kind of body is accepted. -/
  accept : String
  /-- The credentials that are sent along. -/
  authorization : Option String
  body : Option String
  /-- The domain that the request is about. -/
  subject : Option String

/-- An answer. -/
structure Response where
  status : Nat
  body : List UInt8

namespace Response

/-- The status tells success. -/
def isSuccess (response : Response) : Bool := 200 ≤ response.status && response.status ≤ 299

/-- The status tells a failure that may pass. -/
def mayPass (response : Response) : Bool := 500 ≤ response.status || response.status == 429

/-- The body as text, each malformed part replaced. -/
def text (response : Response) : String := Text.Utf8.decodeLossy response.body

/-- The value of the body; a body that holds none counts as missing. -/
def value (response : Response) : Value := (Json.parseOctets? response.body).getD .null

end Response

/-- How a request can fail on its way. Some faults are only known by their family. -/
inductive Fault where
  | transport
  | timeout
  | network
  | protocol
  | connect
  | read
  | write
  | close
  | connectTimeout
  | readTimeout
  | writeTimeout
  | poolTimeout
  | proxy
  | unsupportedProtocol
  | localProtocol
  | remoteProtocol
  | request
  | tooManyRedirects
  | decoding
  | unspecified
  deriving DecidableEq

namespace Fault

/-- All faults. -/
def all : List Fault :=
  [transport, timeout, network, protocol, connect, read, write, close, connectTimeout,
   readTimeout, writeTimeout, poolTimeout, proxy, unsupportedProtocol, localProtocol,
   remoteProtocol, request, tooManyRedirects, decoding, unspecified]

/-- The name of a fault, which tells about it when nothing else does. -/
def name : Fault → String
  | transport => "TransportError"
  | timeout => "TimeoutException"
  | network => "NetworkError"
  | protocol => "ProtocolError"
  | connect => "ConnectError"
  | read => "ReadError"
  | write => "WriteError"
  | close => "CloseError"
  | connectTimeout => "ConnectTimeout"
  | readTimeout => "ReadTimeout"
  | writeTimeout => "WriteTimeout"
  | poolTimeout => "PoolTimeout"
  | proxy => "ProxyError"
  | unsupportedProtocol => "UnsupportedProtocol"
  | localProtocol => "LocalProtocolError"
  | remoteProtocol => "RemoteProtocolError"
  | request => "RequestError"
  | tooManyRedirects => "TooManyRedirects"
  | decoding => "DecodingError"
  | unspecified => "HTTPError"

/-- The fault of a name. -/
def ofName? (name : String) : Option Fault := all.find? fun fault => fault.name == name

/-- The fault lies in the transport and may pass. -/
def mayPass : Fault → Bool
  | request | tooManyRedirects | decoding | unspecified => false
  | _ => true

end Fault

/-- How a request ends that is left to itself. -/
inductive Ending where
  | answered (response : Response)
  | failed (fault : Fault) (message : String)
  | crashed (crash : Crash)

/-- What an ending means to the client that sent a request: it takes no answer without knowing
where that comes from. -/
def Request.received (request : Request) : Ending → Ending
  | .answered response =>
    if request.url.scheme = "" then .crashed .unknownOrigin else .answered response
  | ending => ending

/-- How a request ends under a deadline. -/
inductive Outcome where
  | ended (ending : Ending)
  /-- The deadline came first. -/
  | overdue

/-- What a remote service does with a request. -/
structure Reply where
  /-- How long it takes, in milliseconds. -/
  delay : Nat
  ending : Ending

/-- A remote service: what it does with a request depends on what it has been asked before. -/
abbrev Server (σ : Type) := σ → Request → Reply × σ

/-- A request and the moment it was sent. -/
structure Sent where
  sentAt : Nat
  request : Request

end DomainScout.Remote
