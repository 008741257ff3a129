import ClientOrigin.Lifecycle.Startup
import ClientOrigin.Proofs.Limit.Pruning
import ClientOrigin.Proofs.Settings.Problem

/-!
# What the problems say about a start

The problems of settings are found by other means than those by which a server starts.

* **failures** — a server cannot be set up exactly if its header has a problem
  (`Server.ofSettings_eq_error_iff`), and a start fails over the metrics exactly if their address
  has one (`Listening.start_metricsAddress_iff`);
* **states** — while a server runs, requests come, time passes and idle buckets are dropped
  (`Server.Reaches`); the capacity of the buckets stays as it was set up (`Reaches.capacity`);
* `problems_predict_start` puts both together: settings without problems make a server that starts,
  whose requests have time and whose new clients are let in.
-/

namespace ClientOrigin

open Text

/-! ## Failures -/

theorem HeaderName.ofSetting_eq_error_iff (s : Text) (e : HeaderError) :
    ofSetting s = .error e ↔ trim s ≠ [] ∧ ofText? (trim s) = none ∧ e = .invalidName := by
  unfold ofSetting
  by_cases blank : trim s = []
  · simp [blank]
  · cases ofText? (trim s) with
    | none => simp [blank, eq_comm]
    | some name => simp [blank]

namespace Server

/-- A server cannot be set up exactly if there is a problem with its header. -/
theorem ofSettings_eq_error_iff (s : Settings) (ids : Nat → RequestId) :
    (∃ e, ofSettings s ids = .error e) ↔ ∃ value, .invalidHeaderName value ∈ s.problems := by
  have failed : ∀ e, ofSettings s ids = .error e ↔
      HeaderName.ofSetting s.resolution.forwardedHeader = .error e := by
    intro e
    unfold ofSettings Resolver.ofSettings
    cases HeaderName.ofSetting s.resolution.forwardedHeader <;> simp [Except.map]
  simp only [failed, HeaderName.ofSetting_eq_error_iff, Settings.mem_problems_iff, Settings.Faulty]
  constructor
  · rintro ⟨_, named, wrong, _⟩
    exact ⟨_, rfl, named, wrong⟩
  · rintro ⟨_, rfl, named, wrong⟩
    exact ⟨_, named, wrong, rfl⟩

end Server

namespace Listening

variable (s : Settings) (ids : Nat → RequestId)

theorem metricsAddress_eq_error_iff (r : ReportSettings) (e : StartupError) :
    metricsAddress r = .error e ↔
      r.metricsEnabled = true ∧ Endpoint.ofText? r.metricsAddress = none ∧
        e = .metricsAddress r.metricsAddress := by
  unfold metricsAddress
  cases r.metricsEnabled with
  | false => simp
  | true => cases Endpoint.ofText? r.metricsAddress <;> simp [eq_comm]

/-- The first step that fails ends the start: the metrics, the server, the socket. -/
theorem start_eq_error_cases {e : StartupError} (failed : start s ids = .error e) :
    metricsAddress s.report = .error e ∨
    (∃ cause, Server.ofSettings s ids = .error cause ∧ e = .header cause) ∨
    ∃ cause, e = .bind s.listener.bindAddress cause := by
  unfold start at failed
  cases metrics : metricsAddress s.report with
  | error cause =>
      rw [metrics] at failed
      obtain rfl : cause = e := Except.error.inj failed
      exact .inl rfl
  | ok shown =>
      rw [metrics] at failed
      cases server : Server.ofSettings s ids with
      | error cause =>
          rw [server] at failed
          exact .inr (.inl ⟨cause, rfl, (Except.error.inj failed).symm⟩)
      | ok server' =>
          rw [server] at failed
          cases socket : listenAddress s.listener.bindAddress with
          | error cause =>
              rw [socket] at failed
              exact .inr (.inr ⟨cause, (Except.error.inj failed).symm⟩)
          | ok address =>
              rw [socket] at failed
              change (if _ then _ else _) = _ at failed
              split at failed
              · exact .inr (.inr ⟨_, (Except.error.inj failed).symm⟩)
              · cases failed

/-- A start fails over the metrics exactly if there is a problem with their address. -/
theorem start_metricsAddress_iff :
    (∃ value, start s ids = .error (.metricsAddress value)) ↔
      ∃ value, .invalidAddress "observability.metrics_address" value ∈ s.problems := by
  constructor
  · rintro ⟨value, failed⟩
    rcases start_eq_error_cases s ids failed with metrics | ⟨_, _, other⟩ | ⟨_, other⟩
    · obtain ⟨shown, wrong, _⟩ := (metricsAddress_eq_error_iff s.report _).mp metrics
      exact ⟨_, (s.mem_problems_iff _).mpr ⟨.inr ⟨rfl, shown, rfl⟩, wrong⟩⟩
    · cases other
    · cases other
  · rintro ⟨value, found⟩
    obtain ⟨⟨other, _⟩ | ⟨_, shown, rfl⟩, wrong⟩ := (s.mem_problems_iff _).mp found
    · exact absurd other (by decide)
    · have metrics := (metricsAddress_eq_error_iff s.report _).mpr ⟨shown, wrong, rfl⟩
      refine ⟨s.report.metricsAddress, ?_⟩
      unfold start
      rw [metrics]
      rfl

end Listening

/-! ## States of a server -/

namespace Limiter

theorem capacity_check {α : Type} [TokenArithmetic α] (l : Limiter α) (now : Nat) (a : Address) :
    (l.check now a).2.capacity = l.capacity := rfl

/-- A client without a bucket is granted a check if a bucket has room for a token at all. -/
theorem check_of_untracked {l : Limiter Binary64} {burst : Nat} (small : burst < 2 ^ 32)
    (positive : 0 < burst) (capacity : l.capacity = Binary64.ofNat burst) (now : Nat) {a : Address}
    (untracked : l.bucket? a = none) : (l.check now a).1 = true := by
  have ready := ready_new (t := ⟨now, l⟩) small untracked capacity
  have token : Binary64.scale ≤ (Timed.ready ⟨now, l⟩ a).tokens.units := by
    rw [ready]
    exact Nat.le_mul_of_pos_left _ positive
  rw [← Bucket.hasToken_iff, Timed.ready] at token
  rw [check_eq, Bucket.acquire_of_token token]

end Limiter

namespace Server

/-- The states of a server that has been set up: requests come, time passes, and idle buckets are
dropped. -/
inductive Reaches (server : Server) : ServiceState → Prop
  | start : Reaches server server.state
  | step {st : ServiceState} (before : Reaches server st) (next : Application.Step) :
      Reaches server (server.application.step st next).2
  | prune {st : ServiceState} (before : Reaches server st) :
      Reaches server { st with limiter := Listening.pruned st }

section Handle

variable (s : Settings) (ids : Nat → RequestId) (r : Resolver) (q : Request) (st : ServiceState)
variable (time : 0 < s.timeouts.requestSecs.toNat)

include time

/-- What a request may be answered, and that it leaves the capacity of the buckets alone. -/
theorem handle_cases :
    let o := (assembled s ids r).application.handle q st
    o.state.limiter.capacity = st.limiter.capacity ∧
      (o.response.status = Routes.serverStatus q ∨
        o.response.status = .tooManyRequests ∧ s.limit.enabled = true ∧
          (st.limiter.check st.now (r.client q).address).1 = false) := by
  intro o
  cases enabled : s.limit.enabled with
  | false =>
      obtain ⟨status, limiter⟩ := handle_of_unlimited s ids r q st time enabled
      exact ⟨congrArg Limiter.capacity limiter, .inl status⟩
  | true =>
      rcases checked : st.limiter.check st.now (r.client q).address with ⟨granted, limiter⟩
      obtain ⟨status, left, _⟩ := handle_of_check s ids r q st time enabled checked
      have capacity := Limiter.capacity_check st.limiter st.now (r.client q).address
      rw [checked] at capacity
      refine ⟨(congrArg Limiter.capacity left).trans capacity, ?_⟩
      cases granted with
      | false => exact .inr ⟨status, rfl, rfl⟩
      | true => exact .inl status

/-- In all these states the buckets have the capacity that was set up. -/
theorem Reaches.capacity {st : ServiceState} (reached : (assembled s ids r).Reaches st) :
    st.limiter.capacity = Binary64.ofNat s.limit.burst.toNat := by
  induction reached with
  | start => rfl
  | step before next ih =>
      cases next with
      | request q => exact (handle_cases s ids r q _ time).1.trans ih
      | advance nanos => exact ih
  | prune before ih => exact ih

end Handle

end Server

/-! ## Predictions -/

/-- **Predictions.**  A server cannot be set up exactly if its header has a problem, and a start
fails over the metrics exactly if their address has one, whatever else is wrong: a problem is found
exactly if its own field is at fault, and no field has two.  So settings that have been read make a
server, and the start fails at the socket if it fails at all.  No request is told that its time is
up, and in no state of the server a client without a bucket is told that it is over its limit. -/
theorem problems_predict_start :
    (∀ (s : Settings) (ids : Nat → RequestId),
      ((∃ e, Server.ofSettings s ids = .error e) ↔
        ∃ value, .invalidHeaderName value ∈ s.problems) ∧
      ((∃ value, Listening.start s ids = .error (.metricsAddress value)) ↔
        ∃ value, .invalidAddress "observability.metrics_address" value ∈ s.problems) ∧
      (∀ p, p ∈ s.problems ↔ s.Faulty p) ∧ (s.problems.map Problem.field).Nodup) ∧
    ∀ (text : Text) (s : Settings) (ids : Nat → RequestId), Settings.ofText text = .ok s →
      ∃ server, Server.ofSettings s ids = .ok server ∧
        (∀ cause, Listening.start s ids ≠ .error (.header cause)) ∧
        (∀ value, Listening.start s ids ≠ .error (.metricsAddress value)) ∧
        ∀ st, server.Reaches st → ∀ q : Request,
          (server.application.handle q st).response.status ≠ .requestTimeout ∧
          (s.limit.enabled = true →
            st.limiter.bucket? (server.application.environment.resolver.client q).address = none →
            (server.application.handle q st).response.status ≠ .tooManyRequests) := by
  constructor
  · intro s ids
    exact ⟨Server.ofSettings_eq_error_iff s ids, Listening.start_metricsAddress_iff s ids,
      s.mem_problems_iff, s.problems_nodup⟩
  · intro text s ids read
    have none := Settings.problems_of_ofText read
    have faultless : ∀ p, ¬ s.Faulty p := by
      intro p fault
      have found := (s.mem_problems_iff p).mpr fault
      rw [none] at found
      exact List.not_mem_nil found
    have named : ∀ e, Server.ofSettings s ids ≠ .error e := by
      intro e failed
      obtain ⟨value, found⟩ := (Server.ofSettings_eq_error_iff s ids).mp ⟨e, failed⟩
      exact faultless _ ((s.mem_problems_iff _).mp found)
    have time : 0 < s.timeouts.requestSecs.toNat := by
      refine Nat.pos_of_ne_zero fun zero => faultless (.notPositive "timeouts.request_secs") ?_
      exact .inr ⟨rfl, UInt64.toNat_inj.mp zero⟩
    cases made : Server.ofSettings s ids with
    | error e => exact absurd made (named e)
    | ok server =>
        obtain ⟨r, _, rfl⟩ := (Server.ofSettings_eq_ok_iff s ids server).mp made
        refine ⟨_, rfl, ?_, ?_, fun st reached q => ?_⟩
        · intro cause failed
          rcases Listening.start_eq_error_cases s ids failed with
            metrics | ⟨e, failed, _⟩ | ⟨_, other⟩
          · obtain ⟨_, _, other⟩ := (Listening.metricsAddress_eq_error_iff s.report _).mp metrics
            cases other
          · exact named e failed
          · cases other
        · intro value failed
          obtain ⟨_, found⟩ := (Listening.start_metricsAddress_iff s ids).mp ⟨value, failed⟩
          exact faultless _ ((s.mem_problems_iff _).mp found)
        · obtain ⟨_, granted | ⟨refused, on, checked⟩⟩ := Server.handle_cases s ids r q st time
          · rw [granted]
            exact ⟨Routes.serverStatus_ne_requestTimeout q,
              fun _ _ => Routes.serverStatus_ne_tooManyRequests q⟩
          · rw [refused]
            refine ⟨Status.noConfusion, fun _ untracked => ?_⟩
            -- a new bucket holds the burst, which has been found to be positive
            have burst : 0 < s.limit.burst.toNat := by
              refine Nat.pos_of_ne_zero fun zero =>
                faultless (.notPositive "rate_limit.burst_size") ?_
              exact .inl ⟨on, .inr ⟨rfl, UInt32.toNat_inj.mp zero⟩⟩
            have let_in := Limiter.check_of_untracked s.limit.burst.toNat_lt burst
              (Server.Reaches.capacity s ids r time reached) st.now untracked
            exact absurd let_in (Bool.eq_false_iff.mp checked)

/-- A document that leaves every client a single token, and a first request. -/
theorem problems_predict_start_oneToken :
    let text := "[rate_limit]\nenabled = true\nburst_size = 1\n".toList
    let s : Settings := { limit := { enabled := true, burst := 1 } }
    let ids : Nat → RequestId := fun _ => ⟨.ofNat 20, by decide, by decide +kernel⟩
    let q : Request := ⟨.get, ⟨"/ip".toList, none⟩, .empty, none⟩
    Settings.ofText text = .ok s ∧ s.limit.enabled = true ∧
      ∃ server, Server.ofSettings s ids = .ok server ∧ server.Reaches server.state ∧
        server.state.limiter.bucket?
          (server.application.environment.resolver.client q).address = none ∧
        (server.application.handle q server.state).response.status ≠ .requestTimeout ∧
        (server.application.handle q server.state).response.status ≠ .tooManyRequests := by
  intro text s ids q
  have read : Settings.ofText text = .ok s := by decide +kernel
  let r : Resolver := ⟨false, none, .empty⟩
  have made : Resolver.ofSettings s.resolution = .ok r := by decide +kernel
  have accepted := (Server.ofSettings_eq_ok_iff s ids _).mpr ⟨r, made, rfl⟩
  obtain ⟨server, same, _, _, answers⟩ := problems_predict_start.2 text s ids read
  obtain rfl := Except.ok.inj (accepted.symm.trans same)
  have untracked :
      (Server.assembled s ids r).state.limiter.bucket? (r.client q).address = none := rfl
  obtain ⟨inTime, granted⟩ := answers _ .start q
  exact ⟨read, rfl, _, accepted, .start, untracked, inTime, granted rfl untracked⟩

end ClientOrigin
