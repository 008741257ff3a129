import ClientOrigin.Address.Host
import ClientOrigin.Service.Server
import ClientOrigin.Settings.Problem

/-!
# Startup

A server starts in a fixed order: its metrics, its resolver and layers, and last the address that
it listens at, so that no request comes before everything is ready.  The first step that fails
ends the start.
-/

namespace ClientOrigin

open Text

/-- Why a server cannot listen at an address. -/
inductive BindError where
  | notSocketAddress
  | invalidPort
  | nullInName
  | invalidName
  | unknownName
  | addressInUse
  deriving DecidableEq, Repr

/-- The wording of the error. -/
def BindError.message : BindError → String
  | .notSocketAddress => "invalid socket address"
  | .invalidPort => "invalid port value"
  | .nullInName => "file name contained an unexpected NUL byte"
  | .invalidName => "failed to lookup address information: Name or service not known"
  | .unknownName => "failed to lookup address information: Temporary failure in name resolution"
  | .addressInUse => "Address already in use (os error 98)"

/-- Why a server does not start. -/
inductive StartupError where
  | metricsAddress (value : Text)
  | header (error : HeaderError)
  | bind (address : Text) (cause : BindError)
  deriving DecidableEq, Repr

/-- The wording of the error. -/
def StartupError.message : StartupError → String
  | .metricsAddress value => "invalid metrics address " ++ String.ofList (quoted value)
  | .header error => "invalid forwarded header name: " ++ error.message
  | .bind address cause => "failed to bind " ++ String.ofList address ++ ": " ++ cause.message

/-! ## Addresses to listen at -/

/-- The socket of a port on a host. -/
def hostEndpoint (host : Text) (port : BitVec 16) : Except BindError Endpoint :=
  if '\x00' ∈ host then .error .nullInName
  else
    match Host.endpoint? host port with
    | some endpoint => .ok endpoint
    | none => if Host.isName host then .error .unknownName else .error .invalidName

/-- The socket address to listen at: written out, or as a host and a port around the last
colon. -/
def listenAddress (s : Text) : Except BindError Endpoint :=
  match Endpoint.ofText? s with
  | some endpoint => .ok endpoint
  | none =>
    match cutLast? ':' s with
    | none => .error .notSocketAddress
    | some (host, portText) =>
      match boundedDecimal? 0x10000 portText with
      | none => .error .invalidPort
      | some port => hostEndpoint host (BitVec.ofNat 16 port)

/-- Two sockets are in each other's way: they have the same port, which the system does not
choose, and the same address, or one of them stands for all addresses of the other's family. -/
def Endpoint.excludes (a b : Endpoint) : Bool :=
  a.port ≠ 0 && a.port = b.port &&
    match a, b with
    | .v4 x _, .v4 y _ => x = 0 || y = 0 || x = y
    | .v6 x _ _ _, .v6 y _ _ _ => x = 0 || y = 0 || x = y
    | .v4 _ _, .v6 y _ _ _ => y = 0
    | .v6 x _ _ _, .v4 _ _ => x = 0

/-- The address of a listening socket; `chosen` stands for the port if the system chooses it. -/
def Endpoint.printBound (e : Endpoint) (chosen : Text) : Text :=
  e.printHost ++ [':'] ++ if e.port = 0 then chosen else decimal e.port.toNat

/-! ## Starting -/

/-- A server that listens: where, and where it shows its metrics. -/
structure Listening where
  server : Server
  address : Endpoint
  metrics : Option Endpoint

namespace Listening

/-- Where metrics are shown, if they are enabled. -/
def metricsAddress (s : ReportSettings) : Except StartupError (Option Endpoint) :=
  if s.metricsEnabled then
    match Endpoint.ofText? s.metricsAddress with
    | some address => .ok (some address)
    | none => .error (.metricsAddress s.metricsAddress)
  else .ok none

/-- The server that the settings describe, listening. -/
def start (s : Settings) (ids : Nat → RequestId) : Except StartupError Listening := do
  let metrics ← metricsAddress s.report
  let server ← (Server.ofSettings s ids).mapError .header
  let address ← (listenAddress s.listener.bindAddress).mapError (.bind s.listener.bindAddress)
  if metrics.any address.excludes then .error (.bind s.listener.bindAddress .addressInUse)
  else .ok { server, address, metrics }

/-! ## Log entries -/

/-- An event with the message and the address of a socket. -/
def addressEvent (target message : String) (address : Text) : LogEvent :=
  ⟨.event, .info, target, message, [("address", .shown (String.ofList address))]⟩

/-- Metrics are shown at an address. -/
def metricsEvent (address : Endpoint) : LogEvent :=
  addressEvent "client_ip::observability::metrics" "Metrics exporter listening" address.print

/-- What is logged before the server listens. -/
def readyEvents (metrics : Option Endpoint) (server : Server) : List LogEvent :=
  metrics.toList.map metricsEvent ++ server.events

/-- What is logged until the server listens. -/
def startEvents (l : Listening) (chosen : Text) : List LogEvent :=
  readyEvents l.metrics l.server ++
    [addressEvent "client_ip::lifecycle::startup" "Listening for connections"
      (l.address.printBound chosen)]

/-- What is logged by a start that fails. -/
def failureEvents (s : Settings) (ids : Nat → RequestId) : List LogEvent :=
  match metricsAddress s.report with
  | .error _ => []
  | .ok metrics =>
    match Server.ofSettings s ids with
    | .error _ => metrics.toList.map metricsEvent
    | .ok server => readyEvents metrics server

/-- Idle buckets have been dropped. -/
def prunedEvent (clients : Nat) : LogEvent :=
  ⟨.event, .trace, Server.target, "Pruned rate limit buckets", [("clients", .number clients)]⟩

/-- The limiter after idle buckets have been dropped. -/
def pruned (s : ServiceState) : Limiter Binary64 := s.limiter.prune s.now Limiter.serverIdle

/-- What is logged when the server begins to take requests.  With a rate limit, idle buckets are
dropped at once for the first time. -/
def serveEvents (l : Listening) (chosen : Text) : List LogEvent :=
  [addressEvent Server.target "HTTP server starting" (l.address.printBound chosen)] ++
    if .rateLimit ∈ l.server.application.layers then [prunedEvent (pruned l.server.state).tracked]
    else []

/-- What the connections report when the server stops; none of them is open. -/
def drainEvents : List LogEvent :=
  ["received graceful shutdown signal. Telling tasks to shutdown",
    "signal received, not accepting new connections", "waiting for 0 task(s) to finish"].map
    fun text => ⟨.event, .trace, "axum::serve", text, []⟩

/-- What is logged when the server stops. -/
def stopEvents : List LogEvent :=
  [⟨.event, .info, Server.target, "Shutdown signal received", []⟩] ++ drainEvents ++
    [⟨.event, .info, Server.target, "HTTP server stopped", []⟩]

end Listening

end ClientOrigin
