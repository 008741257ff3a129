import ClientOrigin.Proofs.Service.Layers
import ClientOrigin.Service.Server

/-!
# What the server answers

The server as its settings describe it (`assembled`), and what it makes of one request:

* with no time for requests it answers that the time is up (`handle_of_no_time`);
* without a limiter it answers what its resources do (`handle_of_unlimited`);
* with a limiter it asks the bucket of the resolved address first (`handle_of_check`).
-/

namespace ClientOrigin

/-! ## Resources -/

namespace Routes

/-- The status that the resources of the server give to a request whose client is known. -/
def serverStatus (q : Request) : Status :=
  match server.find? q.target.path with
  | none => .notFound
  | some _ => if answers q.method then .ok else .methodNotAllowed

theorem serverStatus_cases (q : Request) :
    serverStatus q = .notFound ∨ serverStatus q = .ok ∨ serverStatus q = .methodNotAllowed := by
  unfold serverStatus
  split
  · exact .inl rfl
  · split
    · exact .inr (.inl rfl)
    · exact .inr (.inr rfl)

theorem serverStatus_ne_tooManyRequests (q : Request) :
    serverStatus q ≠ .tooManyRequests := by
  rcases serverStatus_cases q with status | status | status <;> rw [status] <;>
    exact Status.noConfusion

theorem serverStatus_ne_requestTimeout (q : Request) :
    serverStatus q ≠ .requestTimeout := by
  rcases serverStatus_cases q with status | status | status <;> rw [status] <;>
    exact Status.noConfusion

theorem find?_eq_some {path : Text} {handler : Handler} (h : server.find? path = some handler) :
    handler = Handler.address ∨ handler = Handler.health := by
  unfold find? server at h
  rw [List.lookup_cons] at h
  split at h
  · injection h with h
    exact .inl h.symm
  · rw [List.lookup_cons] at h
    split at h
    · injection h with h
      exact .inr h.symm
    · exact absurd h (by simp)

/-- The resources of the server answer every client that is known. -/
theorem status_of_find? {path : Text} {handler : Handler}
    (h : server.find? path = some handler) {v : Visit} {client : Resolution}
    (known : v.client = some client) : (handler v).status = .ok := by
  rcases find?_eq_some h with rfl | rfl
  · unfold Handler.address Handler.withClient
    rw [known]
    rfl
  · rfl

theorem respond_status {v : Visit} {client : Resolution} (known : v.client = some client) :
    (server.respond v).status = serverStatus v.request := by
  unfold respond serverStatus
  cases found : server.find? v.request.target.path with
  | none => rfl
  | some handler =>
      dsimp only
      by_cases answered : answers v.request.method = true
      · rw [if_pos answered, if_pos answered]
        exact status_of_find? found known
      · rw [if_neg answered, if_neg answered]
        rfl

/-- Method, path and client decide about the status, whether the client is known or not. -/
theorem respond_status_congr {v v' : Visit} (method : v'.request.method = v.request.method)
    (path : v'.request.target.path = v.request.target.path) (client : v'.client = v.client) :
    (server.respond v').status = (server.respond v).status := by
  unfold respond
  rw [method, path]
  cases found : server.find? v.request.target.path with
  | none => rfl
  | some handler =>
      dsimp only
      by_cases answered : answers v.request.method = true
      · rw [if_pos answered, if_pos answered]
        rcases find?_eq_some found with rfl | rfl
        · unfold Handler.address Handler.withClient
          rw [client]
          cases v.client <;> rfl
        · rfl
      · rw [if_neg answered, if_neg answered]

/-- The resource that tells addresses shows the client that is known. -/
theorem respond_address {v : Visit} {client : Resolution} (known : v.client = some client)
    (path : v.request.target.path = "/ip".toList) (asked : v.request.method = .get) :
    (server.respond v).body = client.render (Handler.rendering v.request) := by
  have found : server.find? v.request.target.path = some Handler.address := by
    rw [path]
    rfl
  have answered : answers v.request.method = true := by
    rw [asked]
    decide
  unfold respond
  rw [found]
  dsimp only
  rw [if_pos answered]
  unfold Handler.address Handler.withClient
  rw [known]
  rfl

/-- Completing an answer keeps its status. -/
theorem completed_status (routes : Routes) (q : Request) (r : Response) :
    (routes.completed q r).status = r.status := by
  have bodyFor_status : ∀ (r : Response) m, (r.bodyFor m).status = r.status := by
    intro r m
    unfold Response.bodyFor
    split <;> rfl
  unfold completed
  split
  · rw [bodyFor_status]
    unfold withAllowed
    split <;> rfl
  · split
    · rfl
    · rw [bodyFor_status]
      rfl

/-- Completing an answer to somebody who asks for the body keeps the body. -/
theorem completed_body (routes : Routes) {q : Request} (h : q.method ≠ .head) (r : Response) :
    (routes.completed q r).body = r.body := by
  have bodyFor_same : ∀ r : Response, r.bodyFor q.method = r := by
    intro r
    exact if_neg h
  unfold completed
  split
  · rw [bodyFor_same]
    unfold withAllowed
    split <;> rfl
  · split
    · rfl
    · rw [bodyFor_same]
      rfl

end Routes

/-! ## The server -/

namespace Server

/-- The server of the settings, once its resolver is known. -/
def assembled (s : Settings) (ids : Nat → RequestId) (r : Resolver) : Server :=
  { application :=
      { environment := ⟨r, s.timeouts.requestSecs.toNat, ids⟩
        layers := layers s.limit
        routes := .server }
    state := .start (.ofSettings s.limit)
    events := setupEvents s.resolution r }

/-- Settings make a server exactly when they make a resolver. -/
theorem ofSettings_eq_ok_iff (s : Settings) (ids : Nat → RequestId) (server : Server) :
    ofSettings s ids = .ok server ↔
      ∃ r, Resolver.ofSettings s.resolution = .ok r ∧ server = assembled s ids r := by
  unfold ofSettings
  cases Resolver.ofSettings s.resolution with
  | error e =>
      constructor
      · intro impossible
        exact absurd impossible (by simp [Except.map])
      · rintro ⟨r, impossible, _⟩
        exact absurd impossible (by simp)
  | ok r =>
      constructor
      · intro equal
        injection equal with equal
        exact ⟨r, rfl, equal.symm⟩
      · rintro ⟨other, equal, rfl⟩
        injection equal with equal
        rw [← equal]
        rfl

section Handle

variable (s : Settings) (ids : Nat → RequestId) (r : Resolver) (q : Request) (st : ServiceState)

/-- The service inside the layers that give out ids and keep the log. -/
def core : Service :=
  Layer.timing s.timeouts.requestSecs.toNat
    (Layer.resolving r
      (if s.limit.enabled then Layer.limiting Routes.server.service else Routes.server.service))

theorem inside_layers :
    Service.inside ⟨r, s.timeouts.requestSecs.toNat, ids⟩ (layers s.limit)
        Routes.server.service =
      Layer.assigning ids (Layer.propagating (Layer.tracing (core s r))) := by
  unfold Service.inside layers core
  cases s.limit.enabled with
  | false =>
      simp only [Bool.false_eq_true, if_false, List.nil_append, List.foldl_cons, List.foldl_nil,
        Layer.around]
  | true =>
      simp only [if_true, List.cons_append, List.nil_append, List.foldl_cons, List.foldl_nil,
        Layer.around]

/-- The request as the core sees it, and the state in which it does. -/
def entry : Visit × ServiceState := Layer.identified ids (.ofRequest q) st

/-- The outcome of the core for a request. -/
def coreOutcome : Outcome := core s r (entry ids q st).1 (entry ids q st).2

/-- The outer layers keep the status, the body and the state that the core gives. -/
theorem handle_eq :
    ((assembled s ids r).application.handle q st).response.status =
        (coreOutcome s ids r q st).response.status ∧
      (q.method ≠ .head → ((assembled s ids r).application.handle q st).response.body =
        (coreOutcome s ids r q st).response.body) ∧
      ((assembled s ids r).application.handle q st).state = (coreOutcome s ids r q st).state := by
  obtain ⟨status, body, state⟩ := Layer.propagating_outcome (Layer.tracing (core s r))
    (entry ids q st).1 (entry ids q st).2
  obtain ⟨response, same⟩ := Layer.tracing_outcome (core s r) (entry ids q st).1
    (entry ids q st).2
  rw [response] at status body
  rw [same] at state
  unfold Application.handle assembled
  dsimp only
  rw [inside_layers, Layer.assigning_eq]
  refine ⟨?_, ?_, ?_⟩
  · rw [Routes.completed_status]
    exact status
  · intro bodied
    rw [Routes.completed_body Routes.server bodied]
    exact body
  · exact state

/-- The outer layers log the span of the request, and then the core logs what it has to say. -/
theorem handle_events :
    ((assembled s ids r).application.handle q st).events =
      Layer.requestSpan (entry ids q st).1 :: (coreOutcome s ids r q st).events := by
  unfold Application.handle assembled
  dsimp only
  rw [inside_layers, Layer.assigning_eq, Layer.propagating_events]
  rfl

/-- The visit that reaches the resources knows the client of the request. -/
theorem resolved_entry_client :
    (Layer.resolved r (entry ids q st).1).client = some (r.client q) := by
  unfold Layer.resolved entry
  rw [Layer.client_identified]
  rfl

theorem serverStatus_entry :
    Routes.serverStatus (Layer.resolved r (entry ids q st).1).request = Routes.serverStatus q := by
  unfold Routes.serverStatus Layer.resolved entry
  rw [Layer.identified_target, Layer.identified_method]
  rfl

/-- The state that reaches the limiter has the limiter and the clock of the state before. -/
theorem resolvedState_entry :
    (Layer.resolvedState r (entry ids q st).1 (entry ids q st).2).limiter = st.limiter ∧
      (Layer.resolvedState r (entry ids q st).1 (entry ids q st).2).now = st.now := by
  unfold Layer.resolvedState entry
  rw [ServiceState.counting_limiter, ServiceState.counting_now, Layer.identified_limiter,
    Layer.identified_now]
  exact ⟨rfl, rfl⟩

/-- The visit that reaches the limiter is keyed by the resolved address. -/
theorem resolved_entry_clientAddress :
    (Layer.resolved r (entry ids q st).1).clientAddress = (r.client q).address := by
  unfold Visit.clientAddress
  rw [resolved_entry_client]

/-! ## The core -/

/-- With no time the core answers that the time is up. -/
theorem coreOutcome_of_no_time (none : s.timeouts.requestSecs.toNat = 0) :
    coreOutcome s ids r q st = ⟨.empty .requestTimeout, [], (entry ids q st).2⟩ := by
  show (if s.timeouts.requestSecs.toNat = 0 then _ else _) = _
  rw [if_pos none]

section Time

variable (time : 0 < s.timeouts.requestSecs.toNat)

include time

theorem core_of_time (enabled : Bool) (h : s.limit.enabled = enabled) :
    core s r = Layer.resolving r
      (if enabled then Layer.limiting Routes.server.service else Routes.server.service) := by
  unfold core
  rw [Layer.timing_of_pos time, h]

/-- Without a limiter the resources answer. -/
theorem coreOutcome_of_unlimited (off : s.limit.enabled = false) :
    (coreOutcome s ids r q st).response =
        Routes.server.respond (Layer.resolved r (entry ids q st).1) ∧
      (coreOutcome s ids r q st).state.limiter = st.limiter ∧
      (coreOutcome s ids r q st).state.now = st.now := by
  obtain ⟨response, limiter, now⟩ := Layer.resolving_outcome r Routes.server.service
    (entry ids q st).1 (entry ids q st).2
  obtain ⟨sameLimiter, sameNow⟩ := resolvedState_entry ids r q st
  unfold coreOutcome
  rw [core_of_time s r time false off, if_neg Bool.false_ne_true, response, limiter, now]
  exact ⟨rfl, sameLimiter, sameNow⟩

/-- With a limiter the resources answer a granted request, and the limiter a denied one. -/
theorem coreOutcome_of_check (on : s.limit.enabled = true) {granted : Bool}
    {limiter : Limiter Binary64}
    (checked : st.limiter.check st.now (r.client q).address = (granted, limiter)) :
    (coreOutcome s ids r q st).response =
        (if granted then Routes.server.respond (Layer.resolved r (entry ids q st).1)
          else .plain .tooManyRequests "Rate limit exceeded".toList) ∧
      (coreOutcome s ids r q st).state.limiter = limiter ∧
      (coreOutcome s ids r q st).state.now = st.now := by
  obtain ⟨response, sameLimiter, sameNow⟩ := Layer.resolving_outcome r
    (Layer.limiting Routes.server.service) (entry ids q st).1 (entry ids q st).2
  obtain ⟨entryLimiter, entryNow⟩ := resolvedState_entry ids r q st
  unfold coreOutcome
  rw [core_of_time s r time true on, if_pos rfl, response, sameLimiter, sameNow]
  -- the limiter is asked in the state and about the client that the resolver hands on
  rw [← entryLimiter, ← entryNow, ← resolved_entry_clientAddress ids r q st] at checked
  rw [Layer.limiting_of_check checked, ← entryNow]
  cases granted with
  | false => exact ⟨rfl, rfl, rfl⟩
  | true => exact ⟨rfl, rfl, rfl⟩

end Time

/-! ## One request -/

/-- With no time for requests the time is up before anything is resolved, counted or limited. -/
theorem handle_of_no_time (none : s.timeouts.requestSecs.toNat = 0) :
    ((assembled s ids r).application.handle q st).response.status = .requestTimeout ∧
      ((assembled s ids r).application.handle q st).state.limiter = st.limiter ∧
      ((assembled s ids r).application.handle q st).state.metrics = st.metrics := by
  obtain ⟨status, _, state⟩ := handle_eq s ids r q st
  rw [status, state, coreOutcome_of_no_time s ids r q st none]
  refine ⟨rfl, ?_, ?_⟩
  · exact Layer.identified_limiter ids (.ofRequest q) st
  · exact Layer.identified_metrics ids (.ofRequest q) st

section Time

variable (time : 0 < s.timeouts.requestSecs.toNat)

include time

/-- Without a limiter the answer does not depend on the state. -/
theorem handle_of_unlimited (off : s.limit.enabled = false) :
    ((assembled s ids r).application.handle q st).response.status = Routes.serverStatus q ∧
      ((assembled s ids r).application.handle q st).state.limiter = st.limiter := by
  obtain ⟨status, _, state⟩ := handle_eq s ids r q st
  obtain ⟨response, limiter, _⟩ := coreOutcome_of_unlimited s ids r q st time off
  rw [status, response, Routes.respond_status (resolved_entry_client ids r q st),
    serverStatus_entry, state]
  exact ⟨rfl, limiter⟩

/-- With a limiter the bucket of the resolved address decides, and the request leaves the limiter
as the check does. -/
theorem handle_of_check (on : s.limit.enabled = true) {granted : Bool}
    {limiter : Limiter Binary64}
    (checked : st.limiter.check st.now (r.client q).address = (granted, limiter)) :
    ((assembled s ids r).application.handle q st).response.status =
        (if granted then Routes.serverStatus q else .tooManyRequests) ∧
      ((assembled s ids r).application.handle q st).state.limiter = limiter ∧
      ((assembled s ids r).application.handle q st).state.now = st.now := by
  obtain ⟨status, _, state⟩ := handle_eq s ids r q st
  obtain ⟨response, sameLimiter, sameNow⟩ := coreOutcome_of_check s ids r q st time on checked
  rw [status, state, response]
  refine ⟨?_, sameLimiter, sameNow⟩
  cases granted with
  | false => rfl
  | true =>
      rw [if_pos rfl, if_pos rfl, Routes.respond_status (resolved_entry_client ids r q st),
        serverStatus_entry]

end Time

/-- A good answer is that of the resources. -/
theorem handle_body_of_ok (bodied : q.method ≠ .head)
    (good : ((assembled s ids r).application.handle q st).response.status = .ok) :
    ((assembled s ids r).application.handle q st).response.body =
      (Routes.server.respond (Layer.resolved r (entry ids q st).1)).body := by
  obtain ⟨status, body, _⟩ := handle_eq s ids r q st
  rw [body bodied]
  rw [status] at good
  rcases Nat.eq_zero_or_pos s.timeouts.requestSecs.toNat with none | time
  · rw [coreOutcome_of_no_time s ids r q st none] at good
    exact absurd good Status.noConfusion
  · cases enabled : s.limit.enabled with
    | false => rw [(coreOutcome_of_unlimited s ids r q st time enabled).1]
    | true =>
        rcases checked : st.limiter.check st.now (r.client q).address with ⟨granted, limiter⟩
        obtain ⟨response, _, _⟩ := coreOutcome_of_check s ids r q st time enabled checked
        rw [response] at good ⊢
        cases granted with
        | false => exact absurd good Status.noConfusion
        | true => rfl

/-- What the server answers and what becomes of its limiter depend on the method, the target and
the client of a request. -/
theorem handle_of_client (q' : Request) (method : q'.method = q.method)
    (target : q'.target = q.target) (client : r.client q' = r.client q) :
    ((assembled s ids r).application.handle q' st).response.status =
        ((assembled s ids r).application.handle q st).response.status ∧
      ((assembled s ids r).application.handle q' st).state.limiter =
        ((assembled s ids r).application.handle q st).state.limiter := by
  have same : Routes.serverStatus q' = Routes.serverStatus q := by
    unfold Routes.serverStatus
    rw [method, target]
  rcases Nat.eq_zero_or_pos s.timeouts.requestSecs.toNat with none | time
  · obtain ⟨status, limiter, _⟩ := handle_of_no_time s ids r q st none
    obtain ⟨status', limiter', _⟩ := handle_of_no_time s ids r q' st none
    rw [status, status', limiter, limiter']
    exact ⟨rfl, rfl⟩
  · cases enabled : s.limit.enabled with
    | false =>
        obtain ⟨status, limiter⟩ := handle_of_unlimited s ids r q st time enabled
        obtain ⟨status', limiter'⟩ := handle_of_unlimited s ids r q' st time enabled
        rw [status, status', limiter, limiter']
        exact ⟨same, rfl⟩
    | true =>
        rcases checked : st.limiter.check st.now (r.client q).address with ⟨granted, limiter⟩
        have checked' : st.limiter.check st.now (r.client q').address = (granted, limiter) := by
          rw [client]
          exact checked
        obtain ⟨status, limiter, _⟩ := handle_of_check s ids r q st time enabled checked
        obtain ⟨status', limiter', _⟩ := handle_of_check s ids r q' st time enabled checked'
        rw [status, status', limiter, limiter', same]
        exact ⟨rfl, rfl⟩

section Address

variable (path : q.target.path = "/ip".toList) (asked : q.method = .get)
variable (good : ((assembled s ids r).application.handle q st).response.status = .ok)

include path asked good

/-- The answer to somebody who asks for the address shows the client of the request, in the way
that the request with its id asks for. -/
theorem handle_shown :
    ((assembled s ids r).application.handle q st).response.body =
      (r.client q).render (Handler.rendering (entry ids q st).1.request) := by
  have bodied : q.method ≠ .head := by
    rw [asked]
    decide
  rw [handle_body_of_ok s ids r q st bodied good]
  refine Routes.respond_address (resolved_entry_client ids r q st) ?_ ?_
  · rw [← path]
    exact congrArg Target.path (Layer.identified_target ids (.ofRequest q) st)
  · rw [← asked]
    exact Layer.identified_method ids (.ofRequest q) st

theorem handle_address :
    ∃ rendering, ((assembled s ids r).application.handle q st).response.body =
      (r.client q).render rendering :=
  ⟨_, handle_shown s ids r q st path asked good⟩

end Address

end Handle

end Server

end ClientOrigin
