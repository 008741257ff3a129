import ClientOrigin.Proofs.Resolve.Rightmost
import ClientOrigin.Service.Application

/-!
# What the layers do

One specification for each layer, so that the stacks built from them need not open their
definitions.

* **ids** — the outermost layers hand a visit on with its id (`identified`); the id is no
  address, so the request resolves as it did without (`client_identified`);
* **echo and span** — the response and the state are those of the inner service, up to headers
  (`propagating_outcome`, `tracing_outcome`);
* **resolver** — the inner service sees the resolved client (`resolving_outcome`);
* **limiter** — a visit is answered by the inner service or by the limiter, as the client's
  bucket decides (`limiting_of_check`).
-/

namespace ClientOrigin

/-- What a request is attributed to. -/
def Resolver.client (r : Resolver) (q : Request) : Resolution := (r.resolve q.headers q.peerText).1

/-! ## Metrics leave the rest of the state alone -/

namespace ServiceState

@[simp] theorem counting_limiter (s : ServiceState) (c : Counter) :
    (s.counting c).limiter = s.limiter := rfl

@[simp] theorem counting_now (s : ServiceState) (c : Counter) : (s.counting c).now = s.now := rfl

end ServiceState

namespace Layer

/-! ## Ids -/

/-- A visit with its id, and the state after the id has been given out. -/
def identified (ids : Nat → RequestId) (v : Visit) (s : ServiceState) : Visit × ServiceState :=
  match v.request.headers.first? .requestId with
  | some id => ({ v with id := some (v.id.getD id) }, s)
  | none =>
    let id := (ids s.issued).value
    let request := { v.request with headers := v.request.headers.append .requestId id }
    ({ v with request, id := some id }, { s with issued := s.issued + 1 })

theorem assigning_eq (ids : Nat → RequestId) (inner : Service) (v : Visit) (s : ServiceState) :
    assigning ids inner v s = inner (identified ids v s).1 (identified ids v s).2 := by
  unfold assigning identified
  cases v.request.headers.first? .requestId <;> rfl

section Identified

variable (ids : Nat → RequestId) (v : Visit) (s : ServiceState)

@[simp] theorem identified_method :
    (identified ids v s).1.request.method = v.request.method := by
  unfold identified
  split <;> rfl

@[simp] theorem identified_target :
    (identified ids v s).1.request.target = v.request.target := by
  unfold identified
  split <;> rfl

@[simp] theorem identified_peerText :
    (identified ids v s).1.request.peerText = v.request.peerText := by
  unfold identified
  split <;> rfl

@[simp] theorem identified_client : (identified ids v s).1.client = v.client := by
  unfold identified
  split <;> rfl

@[simp] theorem identified_limiter : (identified ids v s).2.limiter = s.limiter := by
  unfold identified
  split <;> rfl

@[simp] theorem identified_now : (identified ids v s).2.now = s.now := by
  unfold identified
  split <;> rfl

@[simp] theorem identified_metrics : (identified ids v s).2.metrics = s.metrics := by
  unfold identified
  split <;> rfl

end Identified

/-- A line that names no address adds nothing to any chain. -/
theorem chain_append {headers : HeaderMap} {name : HeaderName} {value : HeaderValue}
    (silent : Forwarded.candidates value.lossy = []) (header : Text) :
    (headers.append name value).chain header = headers.chain header := by
  unfold HeaderMap.chain HeaderMap.named HeaderMap.append
  rw [List.filter_append, List.map_append, List.flatMap_append]
  by_cases same : Text.eqIgnoringAsciiCase name.text header = true
  · -- the header may be the one that ids stand in, so the line may count
    rw [List.filter_cons, if_pos same, List.filter_nil, List.map_singleton,
      List.flatMap_singleton, silent, List.append_nil]
  · rw [List.filter_cons, if_neg same, List.filter_nil, List.map_nil, List.flatMap_nil,
      List.append_nil]

theorem chain_identified (ids : Nat → RequestId) (v : Visit) (s : ServiceState)
    (header : Text) :
    (identified ids v s).1.request.headers.chain header =
      v.request.headers.chain header := by
  unfold identified
  split
  · rfl
  · exact chain_append (ids s.issued).namesNoAddress header

/-- The id that a request is given does not change what the request resolves to. -/
theorem client_identified (r : Resolver) (ids : Nat → RequestId) (v : Visit)
    (s : ServiceState) : r.client (identified ids v s).1.request = r.client v.request := by
  unfold Resolver.client
  rw [Resolver.resolve_fst, Resolver.resolve_fst, identified_peerText]
  simp only [chain_identified]

/-- The echo of the id changes the headers of the response and nothing else. -/
theorem propagating_outcome (inner : Service) (v : Visit) (s : ServiceState) :
    (propagating inner v s).response.status = (inner v s).response.status ∧
      (propagating inner v s).response.body = (inner v s).response.body ∧
      (propagating inner v s).state = (inner v s).state := by
  unfold propagating
  split
  · exact ⟨rfl, rfl, rfl⟩
  · exact ⟨rfl, rfl, rfl⟩

/-- The echo of the id is not logged. -/
theorem propagating_events (inner : Service) (v : Visit) (s : ServiceState) :
    (propagating inner v s).events = (inner v s).events := by
  unfold propagating
  split <;> rfl

/-! ## Span and time -/

/-- A span changes the log and nothing else. -/
theorem tracing_outcome (inner : Service) (v : Visit) (s : ServiceState) :
    (tracing inner v s).response = (inner v s).response ∧
      (tracing inner v s).state = (inner v s).state :=
  ⟨rfl, rfl⟩

theorem timing_of_pos {requestSecs : Nat} (h : 0 < requestSecs) (inner : Service) :
    timing requestSecs inner = inner := by
  funext v s
  show (if requestSecs = 0 then _ else inner v s) = inner v s
  rw [if_neg (by omega)]

/-! ## Resolver -/

/-- The visit as the resolver hands it on. -/
def resolved (r : Resolver) (v : Visit) : Visit := { v with client := some (r.client v.request) }

/-- The state as the resolver hands it on. -/
def resolvedState (r : Resolver) (v : Visit) (s : ServiceState) : ServiceState :=
  s.counting (.resolved (r.client v.request).source)

theorem resolving_eq (r : Resolver) (inner : Service) (v : Visit) (s : ServiceState) :
    resolving r inner v s =
      let o := inner (resolved r v) (resolvedState r v s)
      ⟨o.response, (r.resolve v.request.headers v.request.peerText).2 ++ o.events ++
          [requestCompleted (resolved r v) (r.client v.request) o.response.status],
        o.state.counting (.served v.request.method o.response.status)⟩ := rfl

/-- The inner service sees the resolved client; its response, limiter and clock are kept. -/
theorem resolving_outcome (r : Resolver) (inner : Service) (v : Visit) (s : ServiceState) :
    (resolving r inner v s).response = (inner (resolved r v) (resolvedState r v s)).response ∧
      (resolving r inner v s).state.limiter =
        (inner (resolved r v) (resolvedState r v s)).state.limiter ∧
      (resolving r inner v s).state.now =
        (inner (resolved r v) (resolvedState r v s)).state.now :=
  ⟨rfl, rfl, rfl⟩

/-! ## Limiter -/

/-- A visit with a token goes on to the inner service, and one without is answered by the limiter.
The outcome of the check is a hypothesis: nothing here is about the arithmetic of tokens. -/
theorem limiting_of_check {v : Visit} {s : ServiceState} {granted : Bool}
    {limiter : Limiter Binary64}
    (checked : s.limiter.check s.now v.clientAddress = (granted, limiter)) (inner : Service) :
    limiting inner v s =
      if granted then inner v { s with limiter }
      else
        ⟨.plain .tooManyRequests "Rate limit exceeded".toList, [limitExceeded v.clientAddress],
          { s with limiter }.counting .limited⟩ := by
  unfold limiting
  rw [checked]

end Layer

end ClientOrigin
