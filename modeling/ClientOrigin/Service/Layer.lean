import ClientOrigin.Service.Visit

/-!
# Layers

A layer stands around a service.  It may change the visit on its way in and the response on its
way out, or answer by itself.
-/

namespace ClientOrigin

/-- The layers that a service may have. -/
inductive Layer where
  /-- Answers by itself when the client is over its limit. -/
  | rateLimit
  /-- Finds out where the request comes from, and reports the answer. -/
  | clientAddress
  /-- Answers by itself when the time for a request is up. -/
  | timeout
  /-- Opens a span in the log. -/
  | trace
  /-- Puts the id of the request into the response. -/
  | propagateId
  /-- Gives an id to a request that has none. -/
  | assignId
  deriving DecidableEq, Repr

/-- What the layers need to know: how clients are resolved, how many seconds a request may take,
and the ids to give out. -/
structure Environment where
  resolver : Resolver
  requestSecs : Nat
  ids : Nat → RequestId

namespace Layer

/-! ## Log entries -/

/-- A request begins. -/
def requestSpan (v : Visit) : LogEvent :=
  ⟨.span, .info, "client_ip::http::server", "request",
    [("request_id", .shown (String.ofList v.idText)),
      ("method", .shown v.request.method.toString),
      ("path", .shown (String.ofList v.request.target.path))]⟩

/-- A request has been answered.  The `latency_ms` of the entry is left out: the clock stands still
while a request is handled. -/
def requestCompleted (v : Visit) (client : Resolution) (status : Status) : LogEvent :=
  ⟨.event, .debug, "client_ip::http::middleware::client_ip", "Request completed",
    [("request_id", .shown (String.ofList v.idText)),
      ("client_ip", .shown (String.ofList client.address.print)),
      ("source", .text client.source.name),
      ("remote_addr", .shown (String.ofList v.request.peerText)),
      ("method", .shown v.request.method.toString),
      ("path", .shown (String.ofList v.request.target.path)),
      ("status", .number status.code)]⟩

/-- A client is over its limit. -/
def limitExceeded (client : Address) : LogEvent :=
  ⟨.event, .warn, "client_ip::security::rate_limit", "Rate limit exceeded",
    [("client_ip", .shown (String.ofList client.print))]⟩

/-! ## Single layers -/

/-- One token of the client's bucket for each visit.  Without a known client all visits share the
bucket of the unspecified address. -/
def limiting (inner : Service) : Service := fun v s =>
  let check := s.limiter.check s.now v.clientAddress
  let s := { s with limiter := check.2 }
  if check.1 then inner v s
  else
    ⟨.plain .tooManyRequests "Rate limit exceeded".toList, [limitExceeded v.clientAddress],
      s.counting .limited⟩

/-- The client is resolved before the inner service is asked, and the answer is counted and
logged afterwards. -/
def resolving (resolver : Resolver) (inner : Service) : Service := fun v s =>
  let (client, events) := resolver.resolve v.request.headers v.request.peerText
  let v := { v with client := some client }
  let o := inner v (s.counting (.resolved client.source))
  let status := o.response.status
  ⟨o.response, events ++ o.events ++ [requestCompleted v client status],
    o.state.counting (.served v.request.method status)⟩

/-- While the clock stands still only a time of zero seconds is up, and it is up at once.  The timer
that breaks off a visit which lasts longer is outside: here no visit lasts. -/
def timing (requestSecs : Nat) (inner : Service) : Service := fun v s =>
  if requestSecs = 0 then ⟨.empty .requestTimeout, [], s⟩ else inner v s

/-- The span comes before all events of the visit.  What the tracing library logs by itself is
outside: entries at level DEBUG when a request arrives and when it has been answered, under the
target `tower_http`, which the default filter shows if the settings ask for that level. -/
def tracing (inner : Service) : Service := fun v s => (inner v s).after [requestSpan v]

/-- The first id in the headers of the request goes into the response, unless that has one. -/
def propagating (inner : Service) : Service := fun v s =>
  let o := inner v s
  match v.request.headers.first? .requestId with
  | none => o
  | some id =>
    { o with response :=
      { o.response with headers := o.response.headers.addMissing .requestId id } }

/-- A request with an id keeps it, unless a layer further out has determined the id before; a
request without one gets the next id, also among its headers. -/
def assigning (ids : Nat → RequestId) (inner : Service) : Service := fun v s =>
  match v.request.headers.first? .requestId with
  | some id => inner { v with id := some (v.id.getD id) } s
  | none =>
    let id := (ids s.issued).value
    let request := { v.request with headers := v.request.headers.append .requestId id }
    inner { v with request, id := some id } { s with issued := s.issued + 1 }

/-- The layer around a service. -/
def around (env : Environment) : Layer → Service → Service
  | .rateLimit => limiting
  | .clientAddress => resolving env.resolver
  | .timeout => timing env.requestSecs
  | .trace => tracing
  | .propagateId => propagating
  | .assignId => assigning env.ids

end Layer

/-- A service inside layers, the innermost first. -/
def Service.inside (env : Environment) (layers : List Layer) (inner : Service) : Service :=
  layers.foldl (fun service layer => layer.around env service) inner

end ClientOrigin
