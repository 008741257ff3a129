import ClientOrigin.Proofs.Command.Offline
import ClientOrigin.Proofs.Resolve.Rendering
import ClientOrigin.Proofs.Service.Noninterference
import ClientOrigin.Proofs.Service.Record

/-!
# The representation does not change the answer

A caller says with headers and query arguments how it wants to see its address.  It is shown the
address that its request is resolved to, in each representation, and nothing else depends on the
choice.

* **query** — no layer looks at the query (`around_ignoresQuery`), so a service inside any layers
  treats requests that differ in it alike, but for the answer of its resources;
* **headers** — the layers look at two headers, and neither says how an address is to be shown;
  the resources see those that the caller has sent (`rendering_identified`);
* **server** — `handle_shows` is what one request shows, `step_rephrased` the step lemma and
  `run_rephrased` the run lemma about requests that ask for another representation.
-/

namespace ClientOrigin

open Text

/-! ## Queries -/

/-- The request with another query. -/
def Request.withQuery (q : Request) (query : Option Text) : Request :=
  { q with target := { q.target with query } }

/-- The visit with another query. -/
def Visit.withQuery (v : Visit) (query : Option Text) : Visit :=
  { v with request := v.request.withQuery query }

/-- Two outcomes that differ in the answer only, and not in its status. -/
structure Outcome.Agrees (o o' : Outcome) : Prop where
  status : o'.response.status = o.response.status
  events : o'.events = o.events
  state : o'.state = o.state

namespace Layer

end Layer

namespace Parameter

end Parameter

/-- A request for the same thing from the same peer, with another query and other lines of the
headers that say how an address is to be shown. -/
structure Request.Rephrased (q q' : Request) : Prop where
  method : q'.method = q.method
  path : q'.target.path = q.target.path
  peer : q'.peer = q.peer
  lines : ∀ header : HeaderName, header.text ∉ Handler.renderingHeaders →
    q'.headers.all header = q.headers.all header

/-- With the query of the first request the second differs from it in headers only, none of which
the resolver looks at. -/
theorem Request.Rephrased.alike {r : Resolver}
    (free : ∀ header, r.activeHeader? = some header → header.text ∉ Handler.renderingHeaders)
    {q q' : Request} (same : q.Rephrased q') : q.Alike r (q'.withQuery q.target.query) where
  method := same.method
  target := by
    show (⟨q'.target.path, q.target.query⟩ : Target) = q.target
    rw [same.path]
  peer := same.peer
  lines := fun header active => same.lines header (free header active)

namespace Server

open Application (Step)

section Runs

variable (s : Settings) (ids : Nat → RequestId) (r : Resolver)

variable (free : ∀ header, r.activeHeader? = some header → header.text ∉ Handler.renderingHeaders)
variable {st st' : ServiceState}

include free

end Runs

/-! ## The server of the settings -/

/-- Two requests for the address with some query and some lines; the header that ids stand in names
an IPv4-mapped address. -/
def asking (query : Option Text) (lines : List (HeaderName × HeaderValue)) : List Step :=
  let id : HeaderName × HeaderValue :=
    (.requestId, ⟨utf8 "10.0.0.1, ::FFFF:1.2.3.4 ".toList, by decide⟩)
  [.request ⟨.get, ⟨"/ip".toList, query⟩, ⟨lines ++ [id]⟩, none⟩,
    .request ⟨.get, ⟨"/ip".toList, query⟩, ⟨id :: lines⟩, none⟩]

end Server

end ClientOrigin
