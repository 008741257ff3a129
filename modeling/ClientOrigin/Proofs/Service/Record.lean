import ClientOrigin.Proofs.Service.RateLimit
import ClientOrigin.Proofs.Service.Tally

/-!
# What a request leaves behind

Every request that has time leaves entries in the log and raises counters.  They come from
different layers, and they all speak of one client and one status.

* **services** — a candid service reports and counts the answers of a limiter, and nothing else
  (`Service.Candid`); the resources are candid, and a limiter around a candid service is;
* **resolver** — around a candid service it adds the resolution in front and the answer behind
  (`resolving_record`);
* **server** — `handle_record` is the log and the counters of one request, `run_metrics` the
  counters of a run.
-/

namespace ClientOrigin

namespace Layer

/-! ## Candid services -/

/-- What a limiter reports about an answer. -/
def limitEvents (client : Address) (status : Status) : List LogEvent :=
  if status = .tooManyRequests then [limitExceeded client] else []

/-- What a limiter counts for an answer. -/
def limitCounters (status : Status) : List Counter :=
  if status = .tooManyRequests then [.limited] else []

/-- The counters that a request raises, in order. -/
def counters (client : Resolution) (m : Method) (status : Status) : List Counter :=
  [.resolved client.source] ++ limitCounters status ++ [.served m status]

end Layer

open Layer

/-- A service that reports and counts the answers of a limiter and nothing else, as long as it
knows the client. -/
def Service.Candid (inner : Service) : Prop :=
  ∀ v s client, v.client = some client →
    (inner v s).events = limitEvents client.address (inner v s).response.status ∧
      (inner v s).state.metrics = s.metrics.tally (limitCounters (inner v s).response.status)

theorem Routes.service_candid : server.service.Candid := by
  intro v s client known
  have other : (server.respond v).status ≠ .tooManyRequests := by
    rw [respond_status known]
    exact serverStatus_ne_tooManyRequests v.request
  unfold service limitEvents limitCounters
  dsimp only
  rw [if_neg other, if_neg other]
  exact ⟨rfl, rfl⟩

namespace Layer

theorem limiting_candid {inner : Service} (candid : inner.Candid) : (limiting inner).Candid := by
  intro v s client known
  have key : v.clientAddress = client.address := by
    unfold Visit.clientAddress
    rw [known]
  rcases checked : s.limiter.check s.now v.clientAddress with ⟨granted, limiter⟩
  rw [limiting_of_check checked]
  cases granted with
  | true => exact candid v { s with limiter } client known
  | false =>
      rw [key]
      exact ⟨rfl, rfl⟩

/-! ## The layers of the server -/

/-- The resolver reports and counts the resolution before the inner service is asked, and the
answer after it. -/
theorem resolving_record (r : Resolver) {inner : Service} (candid : inner.Candid) (v : Visit)
    (s : ServiceState) :
    let o := resolving r inner v s
    o.events =
        (r.resolve v.request.headers v.request.peerText).2 ++
          limitEvents (r.client v.request).address o.response.status ++
          [requestCompleted (resolved r v) (r.client v.request) o.response.status] ∧
      o.state.metrics =
        s.metrics.tally (counters (r.client v.request) v.request.method o.response.status) := by
  intro o
  obtain ⟨events, metrics⟩ := candid (resolved r v) (resolvedState r v s) (r.client v.request) rfl
  have status : o.response.status =
      (inner (resolved r v) (resolvedState r v s)).response.status := rfl
  have counted : (resolvedState r v s).metrics =
      s.metrics.tally [.resolved (r.client v.request).source] := rfl
  rw [counted, ← Metrics.tally_append] at metrics
  rw [status]
  constructor
  · rw [← events]
    rfl
  · unfold counters
    rw [Metrics.tally_append, ← metrics]
    rfl

end Layer

namespace Server

open Application (Step)

section Record

variable (s : Settings) (ids : Nat → RequestId) (r : Resolver) (q : Request) (st : ServiceState)
variable (time : 0 < s.timeouts.requestSecs.toNat)

include time

theorem core_record (v : Visit) (st : ServiceState) :
    let o := core s r v st
    o.events =
        (r.resolve v.request.headers v.request.peerText).2 ++
          limitEvents (r.client v.request).address o.response.status ++
          [requestCompleted (resolved r v) (r.client v.request) o.response.status] ∧
      o.state.metrics =
        st.metrics.tally (counters (r.client v.request) v.request.method o.response.status) := by
  cases enabled : s.limit.enabled with
  | false =>
      rw [core_of_time s r time false enabled, if_neg Bool.false_ne_true]
      exact resolving_record r Routes.service_candid v st
  | true =>
      rw [core_of_time s r time true enabled, if_pos rfl]
      exact resolving_record r (limiting_candid Routes.service_candid) v st

/-- A request leaves its span, what the resolver has to say about it, a warning if it is over the
limit, and the report of its answer.  The client of all these entries is the one of the request,
and their status is the one of the answer. -/
theorem handle_record :
    let o := (assembled s ids r).application.handle q st
    let v := (entry ids q st).1
    o.events =
        requestSpan v :: ((r.resolve v.request.headers v.request.peerText).2 ++
          limitEvents (r.client q).address o.response.status ++
          [requestCompleted (resolved r v) (r.client q) o.response.status]) ∧
      o.state.metrics = st.metrics.tally (counters (r.client q) q.method o.response.status) := by
  intro o v
  obtain ⟨status, _, state⟩ := handle_eq s ids r q st
  obtain ⟨events, metrics⟩ := core_record s r time v (entry ids q st).2
  have client : r.client v.request = r.client q :=
    client_identified r ids (.ofRequest q) st
  have method : v.request.method = q.method := identified_method ids (.ofRequest q) st
  have before : (entry ids q st).2.metrics = st.metrics :=
    identified_metrics ids (.ofRequest q) st
  have outer : o.events = requestSpan v :: (coreOutcome s ids r q st).events :=
    handle_events s ids r q st
  rw [client] at events
  rw [client, method, before] at metrics
  rw [outer, state, status]
  exact ⟨congrArg (requestSpan v :: ·) events, metrics⟩

end Record

end Server

/-! ## Runs -/

/-- Every exchange of a run is that of its request, handled at some moment of the run. -/
theorem Application.exists_handle_of_mem_run {app : Application} {st : ServiceState}
    {steps : List Application.Step} {e : Exchange} (mem : e ∈ (app.run st steps).1) :
    ∃ st', e.response = (app.handle e.request st').response ∧
      e.events = (app.handle e.request st').events := by
  induction steps generalizing st with
  | nil => exact absurd mem List.not_mem_nil
  | cons next rest ih =>
      rw [run_cons] at mem
      rcases List.mem_append.mp mem with here | later
      · cases next with
        | advance nanos => exact absurd here List.not_mem_nil
        | request q =>
            obtain rfl := List.mem_singleton.mp here
            exact ⟨st, rfl, rfl⟩
      · exact ih later

/-- The counters that an exchange raises. -/
def Exchange.counters (r : Resolver) (e : Exchange) : List Counter :=
  Layer.counters (r.client e.request) e.request.method e.response.status

namespace Server

open Application (Step)

/-- The counters after a run are those before it, raised by one exchange after another. -/
theorem run_metrics (s : Settings) (ids : Nat → RequestId) (r : Resolver)
    (time : 0 < s.timeouts.requestSecs.toNat) (st : ServiceState) (steps : List Step) :
    ((assembled s ids r).application.run st steps).2.metrics =
      st.metrics.tally
        (((assembled s ids r).application.run st steps).1.flatMap (Exchange.counters r)) := by
  induction steps generalizing st with
  | nil => rfl
  | cons next rest ih =>
      rw [Application.run_cons, List.flatMap_append, Metrics.tally_append]
      dsimp only
      rw [ih]
      cases next with
      | advance nanos => rfl
      | request q =>
          obtain ⟨_, metrics⟩ := handle_record s ids r q st time
          show Metrics.tally ((assembled s ids r).application.handle q st).state.metrics _ =
            Metrics.tally (Metrics.tally _ (List.flatMap _ [_])) _
          rw [metrics, List.flatMap_singleton]
          rfl

end Server

end ClientOrigin
