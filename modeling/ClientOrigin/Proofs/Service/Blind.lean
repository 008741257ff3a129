import ClientOrigin.Proofs.Resolve.Fallback
import ClientOrigin.Proofs.Service.Server

/-!
# Layers that do not look at headers

Of all headers the resolver reads the lines of one (`resolve_of_lines`).  Whatever the others say
gets into the response and into the ids of the log, and no further:

* **relations** — `Alike` requests, visits, states and outcomes agree in all that does not come
  from other headers;
* **layers** — a blind service (`Service.Blind`) treats alike visits alike, and each layer around
  a blind service is blind again;
* **ids** — the outermost layer writes into the headers itself, and that may be the header that
  the resolver looks at (`identified_alike`).
-/

namespace ClientOrigin

/-! ## What the resolver reads -/

/-- Of all headers the resolver reads the lines of the one that it looks at. -/
theorem Resolver.resolve_of_lines {r : Resolver} {headers headers' : HeaderMap}
    (same : ∀ header, r.activeHeader? = some header → headers'.all header = headers.all header)
    (peer : Text) : r.resolve headers' peer = r.resolve headers peer := by
  refine resolve_congr (fun header active => ?_) peer
  unfold fromHeader headerText
  rw [same header active]

/-! ## What the log says -/

namespace LogEvent

/-- What an event says about the client: the address and its source. -/
def attribution (e : LogEvent) : List (String × LogValue) :=
  e.fields.filter fun field => field.1 = "client_ip" || field.1 = "source"

/-- An event without the id of its request.  The resolver does not know the id, and its events
are kept as they are. -/
def withoutId (e : LogEvent) : LogEvent :=
  if e.target = Resolver.target then e
  else { e with fields := e.fields.filter fun field => field.1 ≠ "request_id" }

theorem withoutId_target (e : LogEvent) : e.withoutId.target = e.target := by
  unfold withoutId
  split <;> rfl

/-- Nothing is lost of what the resolver reports. -/
theorem filter_withoutId (events : List LogEvent) :
    (events.map withoutId).filter (fun e => e.target = Resolver.target) =
      events.filter fun e => e.target = Resolver.target := by
  rw [List.filter_map]
  have kept : ∀ e ∈ events.filter fun e => e.target = Resolver.target, withoutId e = e := by
    intro e mem
    exact if_pos (of_decide_eq_true (List.mem_filter.mp mem).2)
  have same : ((fun e : LogEvent => decide (e.target = Resolver.target)) ∘ withoutId) =
      fun e => decide (e.target = Resolver.target) := by
    funext e
    rw [Function.comp_apply, withoutId_target]
  rw [same, List.map_congr_left kept, List.map_id']

end LogEvent

namespace Exchange

/-- What the log says about the client of a request. -/
def attribution (e : Exchange) : List (String × LogValue) := e.events.flatMap LogEvent.attribution

/-- What the resolver reported about a request. -/
def resolverEvents (e : Exchange) : List LogEvent :=
  e.events.filter fun event => event.target = Resolver.target

/-- All that was logged about a request, but for its id. -/
def report (e : Exchange) : List LogEvent := e.events.map LogEvent.withoutId

end Exchange

/-! ## Alike visits, states and outcomes -/

/-- Two requests ask for the same thing from the same peer, and have the same lines of the header
that the resolver looks at. -/
structure Request.Alike (r : Resolver) (q q' : Request) : Prop where
  method : q'.method = q.method
  target : q'.target = q.target
  peer : q'.peer = q.peer
  lines : ∀ header, r.activeHeader? = some header → q'.headers.all header = q.headers.all header

theorem Request.Alike.peerText {r : Resolver} {q q' : Request} (requests : q.Alike r q') :
    q'.peerText = q.peerText := by
  unfold Request.peerText
  rw [requests.peer]

/-- Alike requests come from the same client. -/
theorem Request.Alike.client {r : Resolver} {q q' : Request} (requests : q.Alike r q') :
    r.client q' = r.client q := by
  unfold Resolver.client
  rw [requests.peerText, Resolver.resolve_of_lines requests.lines]

/-- Two states agree in what the layers look at.  How many ids have been given out matters only if
the resolver looks at the header that ids stand in. -/
structure ServiceState.Alike (r : Resolver) (s s' : ServiceState) : Prop where
  now : s'.now = s.now
  limiter : s'.limiter = s.limiter
  metrics : s'.metrics = s.metrics
  issued : r.activeHeader? = some .requestId → s'.issued = s.issued

theorem ServiceState.Alike.counting {r : Resolver} {s s' : ServiceState} (states : s.Alike r s')
    (c : Counter) : (s.counting c).Alike r (s'.counting c) :=
  ⟨states.now, states.limiter, congrArg (·.increment c) states.metrics, states.issued⟩

section Alike

-- the log is compared only if `logged`, as ids of two servers may get into it
variable (r : Resolver) (logged : Prop)

/-- Two visits on their way through the layers: they have the same client or none yet, and the
resolver will find the same one and have the same to report about it. -/
structure Visit.Alike (v v' : Visit) : Prop where
  method : v'.request.method = v.request.method
  target : v'.request.target = v.request.target
  peerText : v'.request.peerText = v.request.peerText
  resolved : r.client v'.request = r.client v.request
  reported : logged → (r.resolve v'.request.headers v'.request.peerText).2 =
    (r.resolve v.request.headers v.request.peerText).2
  client : v'.client = v.client

/-- Two outcomes with the same status that say the same about the client, in alike states. -/
structure Outcome.Alike (o o' : Outcome) : Prop where
  status : o'.response.status = o.response.status
  attribution : o'.events.flatMap LogEvent.attribution = o.events.flatMap LogEvent.attribution
  log : logged → o'.events.map LogEvent.withoutId = o.events.map LogEvent.withoutId
  state : o.state.Alike r o'.state

/-- A service that treats alike visits alike. -/
def Service.Blind (inner : Service) : Prop :=
  ∀ v v' s s', Visit.Alike r logged v v' → s.Alike r s' →
    Outcome.Alike r logged (inner v s) (inner v' s')

end Alike

/-! ## Blind layers -/

theorem Routes.service_blind (r : Resolver) (logged : Prop) : server.service.Blind r logged := by
  intro v v' s s' visits states
  have path := congrArg Target.path visits.target
  exact ⟨respond_status_congr visits.method path visits.client, rfl, fun _ => rfl, states⟩

/-- The resolver reports failures, and no client. -/
theorem Resolver.resolve_attribution (r : Resolver) (headers : HeaderMap) (peer : Text) :
    (r.resolve headers peer).2.flatMap LogEvent.attribution = [] := by
  have peerEvents : (resolvePeer peer).2.flatMap LogEvent.attribution = [] := by
    unfold resolvePeer
    split <;> rfl
  rcases r.resolve_cases headers peer with
    ⟨_, _, _, _, given⟩ | ⟨_, direct⟩ | ⟨_, _, _, _, fallen⟩
  · rw [given]
    rfl
  · rw [direct]
    exact peerEvents
  · rw [fallen]
    exact peerEvents

namespace Layer

variable {r : Resolver} {logged : Prop} {inner : Service}

theorem limiting_blind (blind : inner.Blind r logged) : (limiting inner).Blind r logged := by
  intro v v' s s' visits states
  have key : v'.clientAddress = v.clientAddress := by
    unfold Visit.clientAddress
    rw [visits.client]
  -- both ask one bucket at one instant
  rcases checked : s.limiter.check s.now v.clientAddress with ⟨granted, limiter⟩
  have checked' : s'.limiter.check s'.now v'.clientAddress = (granted, limiter) := by
    rw [states.limiter, states.now, key, checked]
  have left : ServiceState.Alike r { s with limiter } { s' with limiter } :=
    ⟨states.now, rfl, states.metrics, states.issued⟩
  rw [limiting_of_check checked, limiting_of_check checked', key]
  cases granted with
  | true => exact blind _ _ _ _ visits left
  | false => exact ⟨rfl, rfl, fun _ => rfl, left.counting .limited⟩

theorem requestCompleted_congr {v v' : Visit} (method : v'.request.method = v.request.method)
    (target : v'.request.target = v.request.target)
    (peerText : v'.request.peerText = v.request.peerText) (client : Resolution) (status : Status) :
    (requestCompleted v' client status).withoutId =
      (requestCompleted v client status).withoutId := by
  simp [requestCompleted, LogEvent.withoutId, Resolver.target, method, target, peerText]

theorem resolving_blind (blind : inner.Blind r logged) : (resolving r inner).Blind r logged := by
  intro v v' s s' visits states
  have handed : Visit.Alike r logged (resolved r v) (resolved r v') :=
    { visits with client := congrArg some visits.resolved }
  have counted : (resolvedState r v s).Alike r (resolvedState r v' s') := by
    unfold resolvedState
    rw [visits.resolved]
    exact states.counting _
  have answered := blind _ _ _ _ handed counted
  rw [resolving_eq, resolving_eq]
  dsimp only
  rw [answered.status, visits.resolved, visits.method]
  refine ⟨answered.status, ?_, fun log => ?_, answered.state.counting _⟩
  · simp only [List.flatMap_append, Resolver.resolve_attribution, answered.attribution]
    rfl
  · simp only [List.map_append, visits.reported log, answered.log log, List.map_singleton]
    rw [requestCompleted_congr handed.method handed.target handed.peerText]

theorem timing_blind (requestSecs : Nat) (blind : inner.Blind r logged) :
    (timing requestSecs inner).Blind r logged := by
  rcases Nat.eq_zero_or_pos requestSecs with rfl | time
  · intro v v' s s' _ states
    exact ⟨rfl, rfl, fun _ => rfl, states⟩
  · rw [timing_of_pos time]
    exact blind

theorem requestSpan_congr {v v' : Visit} (method : v'.request.method = v.request.method)
    (target : v'.request.target = v.request.target) :
    (requestSpan v').withoutId = (requestSpan v).withoutId := by
  simp [requestSpan, LogEvent.withoutId, Resolver.target, method, target]

theorem tracing_blind (blind : inner.Blind r logged) : (tracing inner).Blind r logged := by
  intro v v' s s' visits states
  have answered := blind _ _ _ _ visits states
  refine ⟨answered.status, answered.attribution, fun log => ?_, answered.state⟩
  show (requestSpan v').withoutId :: (inner v' s').events.map LogEvent.withoutId =
    (requestSpan v).withoutId :: (inner v s).events.map LogEvent.withoutId
  rw [requestSpan_congr visits.method visits.target, answered.log log]

theorem propagating_blind (blind : inner.Blind r logged) : (propagating inner).Blind r logged := by
  intro v v' s s' visits states
  have answered := blind _ _ _ _ visits states
  obtain ⟨status, _, state⟩ := propagating_outcome inner v s
  obtain ⟨status', _, state'⟩ := propagating_outcome inner v' s'
  constructor
  · rw [status, status', answered.status]
  · rw [propagating_events, propagating_events, answered.attribution]
  · rw [propagating_events, propagating_events]
    exact answered.log
  · rw [state, state']
    exact answered.state

/-! ## Ids -/

/-- An id stands in its own header and in no other. -/
theorem all_identified_of_ne {header : HeaderName} (other : header ≠ .requestId)
    (ids : Nat → RequestId) (v : Visit) (s : ServiceState) :
    (identified ids v s).1.request.headers.all header = v.request.headers.all header := by
  unfold identified
  split
  · rfl
  · exact HeaderMap.all_append_of_ne _ other _

/-- Requests with the same ids of their own get new ones together. -/
theorem identified_issued {q q' : Request} {s s' : ServiceState}
    (own : q'.headers.all .requestId = q.headers.all .requestId) (issued : s'.issued = s.issued)
    (ids ids' : Nat → RequestId) :
    (identified ids' (.ofRequest q') s').2.issued = (identified ids (.ofRequest q) s).2.issued := by
  unfold identified HeaderMap.first? Visit.ofRequest
  dsimp only
  rw [own]
  cases (q.headers.all .requestId).head? with
  | none => exact congrArg (· + 1) issued
  | some id => exact issued

/-- Requests with the same ids of their own have the same ones after that, unless they have none
and get different ones. -/
theorem all_identified_requestId {q q' : Request} {s s' : ServiceState}
    (own : q'.headers.all .requestId = q.headers.all .requestId) {ids ids' : Nat → RequestId}
    (same : q.headers.all .requestId = [] → (ids' s'.issued).value = (ids s.issued).value) :
    (identified ids' (.ofRequest q') s').1.request.headers.all .requestId =
      (identified ids (.ofRequest q) s).1.request.headers.all .requestId := by
  unfold identified HeaderMap.first? Visit.ofRequest
  dsimp only
  rw [own]
  cases first : (q.headers.all .requestId).head? with
  | none =>
      dsimp only
      rw [HeaderMap.all_append_self, HeaderMap.all_append_self, own,
        same (List.head?_eq_none_iff.mp first)]
  | some id => exact own

/-- Alike requests are alike visits once they have their ids.  A new id names no address, but if
it stands in the header that the resolver looks at, the resolver may report it. -/
theorem identified_alike {ids ids' : Nat → RequestId} {q q' : Request} {s s' : ServiceState}
    (requests : q.Alike r q') (states : s.Alike r s')
    (same : logged → r.activeHeader? = some .requestId → q.headers.all .requestId = [] →
      (ids' s.issued).value = (ids s.issued).value) :
    Visit.Alike r logged (identified ids (.ofRequest q) s).1
        (identified ids' (.ofRequest q') s').1 ∧
      (identified ids (.ofRequest q) s).2.Alike r (identified ids' (.ofRequest q') s').2 := by
  have lines : logged → ∀ header, r.activeHeader? = some header →
      (identified ids' (.ofRequest q') s').1.request.headers.all header =
        (identified ids (.ofRequest q) s).1.request.headers.all header := by
    intro log header active
    by_cases own : header = .requestId
    · subst own
      refine all_identified_requestId (requests.lines _ active) fun none => ?_
      rw [states.issued active]
      exact same log active none
    · rw [all_identified_of_ne own, all_identified_of_ne own]
      exact requests.lines header active
  constructor
  · constructor
    · rw [identified_method, identified_method]
      exact requests.method
    · rw [identified_target, identified_target]
      exact requests.target
    · rw [identified_peerText, identified_peerText]
      exact requests.peerText
    · rw [client_identified, client_identified]
      exact requests.client
    · intro log
      rw [identified_peerText, identified_peerText, Resolver.resolve_of_lines (lines log)]
      exact congrArg (fun peer => (r.resolve _ peer).2) requests.peerText
    · rw [identified_client, identified_client]
      rfl
  · constructor
    · rw [identified_now, identified_now, states.now]
    · rw [identified_limiter, identified_limiter, states.limiter]
    · rw [identified_metrics, identified_metrics, states.metrics]
    · intro active
      exact identified_issued (requests.lines _ active) (states.issued active) ids ids'

end Layer

end ClientOrigin
