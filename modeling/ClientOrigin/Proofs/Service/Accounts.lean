import ClientOrigin.Proofs.Resolve.Fallback
import ClientOrigin.Proofs.Service.Record

/-!
# Counters, log and answers account for each other

Resolutions, answers and refusals are counted in different layers, and warnings are logged in two
of them.  After any run of a server they agree with the answers that were given.

* `handle_warnings` — the warnings of one request tell its status and the source of its client;
* `countP_flatMap_eq` — what every exchange has at most once is counted by counting exchanges;
* `run_counters` and `run_warnings` — the counters and the warnings of a run, exchange by exchange;
* `run_accounts` — so the totals of a run are numbers of its exchanges.
-/

namespace ClientOrigin

/-! ## Warnings -/

/-- How many warnings with the given message a log has. -/
def warnings (message : String) (log : List LogEvent) : Nat :=
  log.countP fun event => event.level = .warn && event.text = message

theorem warnings_append (message : String) (first later : List LogEvent) :
    warnings message (first ++ later) = warnings message first + warnings message later :=
  List.countP_append

/-- The warning of a limiter. -/
def limitMessage : String := "Rate limit exceeded"

/-- A resolver warns exactly if it has no address, and it never speaks of limits. -/
theorem Resolver.warnings_resolve (r : Resolver) (headers : HeaderMap) (peer : Text) :
    warnings peerMessage (r.resolve headers peer).2 =
        (if (r.resolve headers peer).1.source = .unspecified then 1 else 0) ∧
      warnings limitMessage (r.resolve headers peer).2 = 0 := by
  have peerEvents : warnings peerMessage (resolvePeer peer).2 =
        (if (resolvePeer peer).1.source = .unspecified then 1 else 0) ∧
      warnings limitMessage (resolvePeer peer).2 = 0 := by
    rcases resolvePeer_cases peer with ⟨e, _, found⟩ | ⟨_, failed⟩
    · rw [found]
      exact ⟨rfl, rfl⟩
    · rw [failed]
      exact ⟨rfl, rfl⟩
  rcases r.resolve_cases headers peer with
    ⟨_, a, _, _, given⟩ | ⟨_, direct⟩ | ⟨_, e, _, _, fallen⟩
  · rw [given]
    exact ⟨rfl, rfl⟩
  · rw [direct]
    exact peerEvents
  · -- the failed header attempt is reported on a lower level
    have quiet : ∀ message events,
        warnings message (headerFailed e peer :: events) = warnings message events :=
      fun _ _ => List.countP_cons_of_neg Bool.false_ne_true
    rw [fallen, quiet, quiet]
    exact peerEvents

theorem Layer.warnings_limitEvents (client : Address) (status : Status) :
    warnings limitMessage (limitEvents client status) =
        (if status = .tooManyRequests then 1 else 0) ∧
      warnings peerMessage (limitEvents client status) = 0 := by
  unfold limitEvents
  split
  · exact ⟨rfl, rfl⟩
  · exact ⟨rfl, rfl⟩

namespace Server

open Application (Step)

theorem warnings_setupEvents (s : ResolutionSettings) (r : Resolver) :
    warnings limitMessage (setupEvents s r) = 0 ∧ warnings peerMessage (setupEvents s r) = 0 := by
  unfold setupEvents
  split
  · exact ⟨rfl, rfl⟩
  · exact ⟨rfl, rfl⟩

/-- A request that is over the limit leaves one warning about that, and one whose client is
unknown leaves one about its peer; all others leave none. -/
theorem handle_warnings (s : Settings) (ids : Nat → RequestId) (r : Resolver)
    (time : 0 < s.timeouts.requestSecs.toNat) (q : Request) (st : ServiceState) :
    let o := (assembled s ids r).application.handle q st
    warnings limitMessage o.events = (if o.response.status = .tooManyRequests then 1 else 0) ∧
      warnings peerMessage o.events =
        if (r.client q).source = .unspecified then 1 else 0 := by
  intro o
  obtain ⟨events, _⟩ := handle_record s ids r q st time
  have client : (r.resolve (entry ids q st).1.request.headers
      (entry ids q st).1.request.peerText).1 = r.client q :=
    Layer.client_identified r ids (.ofRequest q) st
  obtain ⟨peer, noLimit⟩ := r.warnings_resolve (entry ids q st).1.request.headers
    (entry ids q st).1.request.peerText
  obtain ⟨limit, noPeer⟩ := Layer.warnings_limitEvents (r.client q).address o.response.status
  rw [client] at peer
  -- the span and the report of the answer are no warnings
  have span : ∀ message log,
      warnings message (Layer.requestSpan (entry ids q st).1 :: log) = warnings message log :=
    fun _ _ => List.countP_cons_of_neg Bool.false_ne_true
  have report : ∀ message v client status,
      warnings message [Layer.requestCompleted v client status] = 0 := fun _ _ _ _ => rfl
  rw [events, span, span, warnings_append, warnings_append, warnings_append, warnings_append,
    report, report, noLimit, limit, peer, noPeer]
  simp

end Server

/-! ## Runs -/

/-- What stands at most once in each part of a list is counted by counting the parts. -/
theorem countP_flatMap_eq {α β : Type} {parts : List α} {items : α → List β} {p : β → Bool}
    {q : α → Bool} (once : ∀ a ∈ parts, (items a).countP p = if q a = true then 1 else 0) :
    (parts.flatMap items).countP p = parts.countP q := by
  induction parts with
  | nil => rfl
  | cons a rest ih =>
      rw [List.flatMap_cons, List.countP_append, List.countP_cons, once a List.mem_cons_self,
        ih fun b mem => once b (List.mem_cons_of_mem a mem)]
      exact Nat.add_comm _ _

namespace Exchange

/-- Each exchange is resolved, answered and refused at most once. -/
theorem countP_counters (r : Resolver) (e : Exchange) (p : Counter → Bool) :
    (e.counters r).countP p =
      (if p (.resolved (r.client e.request).source) = true then 1 else 0) +
        (if e.limited = true ∧ p .limited = true then 1 else 0) +
        if p (.served e.request.method e.response.status) = true then 1 else 0 := by
  unfold counters Layer.counters Layer.limitCounters limited
  rw [List.countP_append, List.countP_append, List.countP_singleton, List.countP_singleton]
  by_cases refused : e.response.status = .tooManyRequests
  · simp [refused, List.countP_singleton]
  · simp [refused]

end Exchange

namespace Server

open Application (Step)

section Run

variable (s : Settings) (ids : Nat → RequestId) (r : Resolver)
variable (time : 0 < s.timeouts.requestSecs.toNat) (steps : List Step)

include time

/-- A counter has the value of how often exchanges have raised it, and likewise all counters of a
name together. -/
theorem run_counters :
    let server := assembled s ids r
    let raised := (server.exchanges steps).flatMap (Exchange.counters r)
    let metrics := (server.application.run server.state steps).2.metrics
    (∀ c, metrics.value c = raised.countP (· == c)) ∧
      ∀ name, metrics.total name = raised.countP fun c => c.name = name := by
  intro server raised metrics
  have tallied : metrics = Metrics.empty.tally raised := run_metrics s ids r time _ steps
  have distinct : Metrics.empty.Distinct := List.nodup_nil
  constructor
  · intro c
    rw [tallied, Metrics.value_tally]
    exact Nat.zero_add _
  · intro name
    rw [tallied, Metrics.total_tally distinct]
    exact Nat.zero_add _

/-- What an exchange of a run warns of, at whatever moment its request came. -/
theorem exchange_warnings {e : Exchange} (mem : e ∈ (assembled s ids r).exchanges steps) :
    warnings limitMessage e.events = (if e.limited = true then 1 else 0) ∧
      warnings peerMessage e.events =
        if decide ((r.client e.request).source = .unspecified) = true then 1 else 0 := by
  obtain ⟨st, response, events⟩ := Application.exists_handle_of_mem_run mem
  unfold Exchange.limited
  rw [response, events]
  simpa using handle_warnings s ids r time e.request st

/-- The warnings of a run are those of its exchanges: setting the server up gives no cause for
any. -/
theorem run_warnings :
    let server := assembled s ids r
    let log := server.events ++ (server.exchanges steps).flatMap Exchange.events
    warnings limitMessage log = (server.exchanges steps).countP Exchange.limited ∧
      warnings peerMessage log =
        (server.exchanges steps).countP fun e => (r.client e.request).source = .unspecified := by
  intro server log
  obtain ⟨noLimit, noPeer⟩ := warnings_setupEvents s.resolution r
  constructor
  · show warnings limitMessage (setupEvents s.resolution r ++ _) = _
    rw [warnings_append, noLimit, Nat.zero_add]
    exact countP_flatMap_eq fun e mem => (exchange_warnings s ids r time steps mem).1
  · show warnings peerMessage (setupEvents s.resolution r ++ _) = _
    rw [warnings_append, noPeer, Nat.zero_add]
    exact countP_flatMap_eq fun e mem => (exchange_warnings s ids r time steps mem).2

end Run

/-- **Accounts.**  After any run of a server whose requests have time, the resolutions and the
answers that were counted are as many as the requests.  Each method and status was counted as
often as it occurred.  The refusals that were counted are as many as the answers that a client is
over its limit and as many as the warnings about that, and the unknown clients that were counted
are as many as the warnings about peers. -/
theorem run_accounts (s : Settings) (ids : Nat → RequestId) (server : Server)
    (accepted : ofSettings s ids = .ok server) (time : 0 < s.timeouts.requestSecs)
    (steps : List Step) :
    let exchanges := server.exchanges steps
    let metrics := (server.application.run server.state steps).2.metrics
    let log := server.events ++ exchanges.flatMap Exchange.events
    exchanges.map Exchange.request = steps.filterMap Step.request? ∧
    metrics.total "client_ip_resolutions_total" = exchanges.length ∧
    metrics.total "http_requests_total" = exchanges.length ∧
    (∀ method status, metrics.value (.served method status) =
      exchanges.countP fun e => e.request.method = method && e.response.status = status) ∧
    metrics.total "rate_limited_total" = exchanges.countP Exchange.limited ∧
    warnings limitMessage log = exchanges.countP Exchange.limited ∧
    metrics.value (.resolved .unspecified) = warnings peerMessage log := by
  intro exchanges metrics log
  obtain ⟨r, made, rfl⟩ := (ofSettings_eq_ok_iff s ids server).mp accepted
  have seconds : 0 < s.timeouts.requestSecs.toNat := UInt64.lt_iff_toNat_lt.mp time
  obtain ⟨value, total⟩ := run_counters s ids r seconds steps
  obtain ⟨refused, unknown⟩ := run_warnings s ids r seconds steps
  -- every exchange raises each kind of counter at most once
  refine ⟨Application.run_requests _ _ steps, ?_, ?_, ?_, ?_, refused, ?_⟩
  · rw [total, ← List.countP_true]
    exact countP_flatMap_eq fun e _ => by simp [Exchange.countP_counters, Counter.name]
  · rw [total, ← List.countP_true]
    exact countP_flatMap_eq fun e _ => by simp [Exchange.countP_counters, Counter.name]
  · intro method status
    rw [value]
    exact countP_flatMap_eq fun e _ => by simp [Exchange.countP_counters]
  · rw [total]
    exact countP_flatMap_eq fun e _ => by simp [Exchange.countP_counters, Counter.name]
  · rw [value, unknown]
    exact countP_flatMap_eq fun e _ => by simp [Exchange.countP_counters]

/-- Three requests of one client, one of them over the limit, and one request from nowhere. -/
theorem run_accounts_fourRequests :
    let steps := threeRequests ++ [.request ⟨.head, ⟨"/ip".toList, none⟩, .empty, none⟩]
    ∃ server, ofSettings onePerSecond (fun _ => ⟨.ofNat 4, by decide, by decide +kernel⟩) =
        .ok server ∧
      0 < onePerSecond.timeouts.requestSecs ∧
      let metrics := (server.application.run server.state steps).2.metrics
      metrics.total "client_ip_resolutions_total" = 4 ∧
        metrics.total "http_requests_total" = 4 ∧
        metrics.value (.served .head .ok) = 1 ∧
        metrics.total "rate_limited_total" = 1 ∧
        metrics.value (.resolved .unspecified) = 1 := by
  intro steps
  have made : Resolver.ofSettings onePerSecond.resolution =
      .ok ⟨true, some ⟨"x-real-ip".toList, by decide, by decide⟩, .empty⟩ := by
    decide +kernel
  have accepted := (ofSettings_eq_ok_iff onePerSecond
    (fun _ => ⟨.ofNat 4, by decide, by decide +kernel⟩) _).mpr ⟨_, made, rfl⟩
  have time : 0 < onePerSecond.timeouts.requestSecs := by decide
  obtain ⟨_, resolved, answered, served, limited, _, unknown⟩ :=
    run_accounts onePerSecond _ _ accepted time steps
  refine ⟨_, accepted, time, ?_, ?_, ?_, ?_, ?_⟩
  · rw [resolved]
    decide +kernel
  · rw [answered]
    decide +kernel
  · rw [served]
    decide +kernel
  · rw [limited]
    decide +kernel
  · rw [unknown]
    decide +kernel

end Server

end ClientOrigin
