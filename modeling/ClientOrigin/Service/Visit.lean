import ClientOrigin.Forwarded.Candidate
import ClientOrigin.Http.Message
import ClientOrigin.Limit.Binary64
import ClientOrigin.Limit.Limiter
import ClientOrigin.Metrics

/-!
# Visits

A visit is a request on its way through the layers of the service, with what the layers have
found out about it.  The service has a state that all visits share.
-/

namespace ClientOrigin

/-- An id that the service gives to a request.  It is plain text, and nobody takes it for an
address. -/
structure RequestId where
  value : HeaderValue
  isVisible : value.visible?.isSome
  namesNoAddress : Forwarded.candidates value.lossy = []

/-- A request with its id and its client, as far as a layer has determined them. -/
structure Visit where
  request : Request
  id : Option HeaderValue
  client : Option Resolution
  deriving DecidableEq, Repr

namespace Visit

/-- A request that has passed no layer yet. -/
def ofRequest (r : Request) : Visit := ⟨r, none, none⟩

/-- The id as text; `unknown` if there is none, or if it is not visible ASCII. -/
def idText (v : Visit) : Text := (v.id.bind HeaderValue.visible?).getD "unknown".toList

/-- The address that the visit is attributed to. -/
def clientAddress (v : Visit) : Address :=
  match v.client with
  | some client => client.address
  | none => .unspecified

end Visit

/-- What all visits share: the clock in nanoseconds, the limiter, the metrics, and how many ids
have been given out. -/
structure ServiceState where
  now : Nat
  limiter : Limiter Binary64
  metrics : Metrics
  issued : Nat
  deriving Repr

namespace ServiceState

/-- The state before the first visit. -/
def start (limiter : Limiter Binary64) : ServiceState := ⟨0, limiter, .empty, 0⟩

/-- The state with a counter raised by one. -/
def counting (s : ServiceState) (c : Counter) : ServiceState :=
  { s with metrics := s.metrics.increment c }

/-- The state after some time. -/
def later (s : ServiceState) (nanos : Nat) : ServiceState := { s with now := s.now + nanos }

end ServiceState

/-- What comes of a visit. -/
structure Outcome where
  response : Response
  events : List LogEvent
  state : ServiceState

/-- The outcome with some events before its own. -/
def Outcome.after (o : Outcome) (events : List LogEvent) : Outcome :=
  { o with events := events ++ o.events }

/-- A part of the service: it takes a visit to its outcome. -/
abbrev Service := Visit → ServiceState → Outcome

end ClientOrigin
