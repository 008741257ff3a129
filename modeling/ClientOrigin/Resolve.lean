import ClientOrigin.Address.Endpoint
import ClientOrigin.Forwarded.Candidate
import ClientOrigin.Header.Map
import ClientOrigin.Log.Event
import ClientOrigin.Text.Quoted
import ClientOrigin.Trusted

/-!
# Resolving the client address

A request comes from the rightmost address of the forwarding header that is not one of our own
proxies; failing that, from the peer of the connection; failing that, from `0.0.0.0`.  Entries
further left may have been written by the client itself.
-/

namespace ClientOrigin

open Text

/-- Where a resolved address came from. -/
inductive Source where
  | header
  | peer
  | unspecified
  deriving DecidableEq, Repr

/-- The name of the source. -/
def Source.name : Source → String
  | .header => "header"
  | .peer => "peer"
  | .unspecified => "unspecified"

/-- The address that a request is attributed to. -/
structure Resolution where
  address : Address
  source : Source
  deriving DecidableEq, Repr

/-- Why an attempt to resolve an address failed. -/
inductive ResolveError where
  | headerMissing (header : HeaderName)
  | noCandidate (header : HeaderName) (value : Text)
  | allTrusted (header : HeaderName) (value : Text)
  | malformedPeer (peer : Text)
  deriving DecidableEq, Repr

namespace ResolveError

/-- The wording of the error. -/
def message : ResolveError → String
  | .headerMissing header => "no " ++ header.toString ++ " header found"
  | .noCandidate header value =>
    "no parseable address in " ++ header.toString ++ " header: " ++ String.ofList value
  | .allTrusted header value =>
    "all addresses in " ++ header.toString ++ " header are trusted proxies: " ++
      String.ofList value
  | .malformedPeer peer => "unable to parse peer address " ++ String.ofList (quoted peer)

end ResolveError

/-- How client addresses are resolved: whether a proxy stands in front, which header it writes,
and which networks are its own. -/
structure Resolver where
  behindProxy : Bool
  header : Option HeaderName
  trusted : TrustedSet
  deriving DecidableEq, Repr

namespace Resolver

/-- The header is looked at. -/
def usesHeader (r : Resolver) : Bool := r.behindProxy && r.header.isSome

/-- The text of all lines of a header: each decoded, joined by commas, without white space around
the whole. -/
def headerText (header : HeaderName) (headers : HeaderMap) : Text :=
  trim (joined [','] ((headers.all header).map HeaderValue.lossy))

/-- The rightmost address of the header that is not trusted. -/
def fromHeader (r : Resolver) (header : HeaderName) (headers : HeaderMap) :
    Except ResolveError Address :=
  let value := headerText header headers
  if value = [] then .error (.headerMissing header)
  else
    let found := Forwarded.candidates value
    if found = [] then .error (.noCandidate header value)
    else
      match (r.trusted.untrusted found).getLast? with
      | some address => .ok address
      | none => .error (.allTrusted header value)

/-- The canonical address of the peer, from the text of its socket address. -/
def fromPeer (peer : Text) : Except ResolveError Address :=
  match Endpoint.ofText? (trim peer) with
  | some endpoint => .ok endpoint.address.canonical
  | none => .error (.malformedPeer peer)

/-- The log target of the resolver. -/
def target : String := "client_ip::client_ip::resolver"

/-- The event of a failed header attempt. -/
def headerFailed (error : ResolveError) (peer : Text) : LogEvent :=
  ⟨.event, .debug, target, "Header resolution failed, falling back to peer address",
    [("error", .shown error.message), ("remote_addr", .shown (String.ofList peer))]⟩

/-- The event of a failed peer attempt. -/
def peerFailed (error : ResolveError) (peer : Text) : LogEvent :=
  ⟨.event, .warn, target, "Unable to parse peer address, using unspecified address (0.0.0.0)",
    [("error", .shown error.message), ("remote_addr", .shown (String.ofList peer))]⟩

/-- The peer attempt, and the unspecified address if it fails. -/
def resolvePeer (peer : Text) : Resolution × List LogEvent :=
  match fromPeer peer with
  | .ok address => (⟨address, .peer⟩, [])
  | .error error => (⟨.unspecified, .unspecified⟩, [peerFailed error peer])

/-- The header that is looked at, if any. -/
def activeHeader? (r : Resolver) : Option HeaderName := if r.behindProxy then r.header else none

/-- The address of a request with the given headers and the given text of its peer, and what is
logged on the way. -/
def resolve (r : Resolver) (headers : HeaderMap) (peer : Text) : Resolution × List LogEvent :=
  match r.activeHeader? with
  | none => resolvePeer peer
  | some header =>
    match r.fromHeader header headers with
    | .ok address => (⟨address, .header⟩, [])
    | .error error =>
      let (resolution, events) := resolvePeer peer
      (resolution, headerFailed error peer :: events)

end Resolver

end ClientOrigin
