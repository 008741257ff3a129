import ClientOrigin.Http.Message
import ClientOrigin.Resolve

/-!
# Metrics

Counters of what the server does: requests by the source of their address, answers by method and
status, and requests over the limit.
-/

namespace ClientOrigin

/-- What is counted. -/
inductive Counter where
  | resolved (source : Source)
  | served (method : Method) (status : Status)
  | limited
  deriving DecidableEq, Repr

namespace Counter

/-- The name under which the counter is shown. -/
def name : Counter → String
  | .resolved _ => "client_ip_resolutions_total"
  | .served _ _ => "http_requests_total"
  | .limited => "rate_limited_total"

/-- The labels that tell counters of one name apart, in order of their names. -/
def labels : Counter → List (String × String)
  | .resolved source => [("source", source.name)]
  | .served method status =>
    [("method", method.toString), ("status", String.ofList (Text.decimal status.code))]
  | .limited => [("reason", "rps_limit")]

end Counter

/-- Counters with their values, each at most once. -/
structure Metrics where
  entries : List (Counter × Nat)
  deriving DecidableEq, Repr

namespace Metrics

/-- Nothing has been counted. -/
def empty : Metrics := ⟨[]⟩

/-- The value of a counter. -/
def value (m : Metrics) (c : Counter) : Nat := (m.entries.lookup c).getD 0

/-- The metrics with a counter raised by one. -/
def increment (m : Metrics) (c : Counter) : Metrics :=
  if (m.entries.lookup c).isSome then
    ⟨m.entries.map fun entry => if entry.1 = c then (c, entry.2 + 1) else entry⟩
  else ⟨m.entries ++ [(c, 1)]⟩

end Metrics

end ClientOrigin
