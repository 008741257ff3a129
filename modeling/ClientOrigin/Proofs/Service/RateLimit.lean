import ClientOrigin.Proofs.Service.Server

/-!
# The server and its limiter

Over whole runs the server is the limiter keyed by the resolved address, with the resources
behind it.  The limiter is driven by what `Step.forLimiter` keeps of a step.

* `step_simulates` and `step_granted` are the step lemmas, `run_simulates` is the run lemma.
* `run_of_no_time` is the run of a server that has no time for requests.
* `run_refines_limiter` puts them together for the server that settings make.
-/

namespace ClientOrigin

/-! ## The limiter on its own -/

namespace Limiter.Timed

variable {α : Type} [TokenArithmetic α]

/-- What the checks of a run returned, in order. -/
def checks (t : Timed α) (steps : List Limiter.Step) : List Bool := (t.run steps).1.filterMap id

theorem run_cons (t : Timed α) (step : Limiter.Step) (rest : List Limiter.Step) :
    t.run (step :: rest) =
      ((t.step step).1 :: ((t.step step).2.run rest).1, ((t.step step).2.run rest).2) := rfl

theorem checks_cons (t : Timed α) (step : Limiter.Step) (rest : List Limiter.Step) :
    t.checks (step :: rest) = (t.step step).1.toList ++ (t.step step).2.checks rest := by
  unfold checks
  rw [run_cons, List.filterMap_cons]
  cases (t.step step).1 with
  | none => rfl
  | some granted => rfl

theorem step_check {t : Timed α} {client : Address} {granted : Bool} {limiter : Limiter α}
    (checked : t.limiter.check t.now client = (granted, limiter)) :
    t.step (.check client) = (some granted, { t with limiter }) := by
  unfold step
  dsimp only
  rw [checked]

end Limiter.Timed

/-! ## Runs of an application -/

/-- The answer is that of a limiter. -/
def Exchange.limited (e : Exchange) : Bool := decide (e.response.status = .tooManyRequests)

namespace Application

/-- The request of a step, if it is one. -/
def Step.request? : Application.Step → Option Request
  | .request q => some q
  | .advance _ => none

/-- What a limiter sees of a step: the address that a request resolves to, and the clock. -/
def Step.forLimiter (r : Resolver) : Application.Step → Limiter.Step
  | .request q => .check (r.client q).address
  | .advance nanos => .advance nanos

theorem run_cons (app : Application) (st : ServiceState) (next : Application.Step)
    (rest : List Application.Step) :
    app.run st (next :: rest) =
      ((app.step st next).1.toList ++ (app.run (app.step st next).2 rest).1,
        (app.run (app.step st next).2 rest).2) := rfl

theorem run_append (app : Application) (st : ServiceState) (first rest : List Application.Step) :
    app.run st (first ++ rest) =
      ((app.run st first).1 ++ (app.run (app.run st first).2 rest).1,
        (app.run (app.run st first).2 rest).2) := by
  induction first generalizing st with
  | nil => rfl
  | cons next first ih =>
      rw [List.cons_append, run_cons, ih, run_cons, List.append_assoc]

/-- The exchanges of a run are those of its requests, in order. -/
theorem run_requests (app : Application) (st : ServiceState) (steps : List Application.Step) :
    (app.run st steps).1.map Exchange.request = steps.filterMap Step.request? := by
  induction steps generalizing st with
  | nil => rfl
  | cons next rest ih =>
      rw [run_cons, List.map_append, ih, List.filterMap_cons]
      cases next with
      | request q => rfl
      | advance nanos => rfl

end Application

/-! ## One step of the server -/

namespace Server

open Application (Step)

section Simulation

variable (s : Settings) (ids : Nat → RequestId) (r : Resolver)

/-- The server in the state `st` and the limiter `t` have the same buckets and the same clock. -/
structure Agrees (st : ServiceState) (t : Limiter.Timed Binary64) : Prop where
  limiter : st.limiter = t.limiter
  now : st.now = t.now

variable {st : ServiceState} {t : Limiter.Timed Binary64}
variable (time : 0 < s.timeouts.requestSecs.toNat) (on : s.limit.enabled = true)

include time on

/-- A step of the server and the same step of the limiter agree again, and an answer is the
limiter's exactly if the check returned false. -/
theorem step_simulates (agrees : Agrees st t) (next : Step) :
    Agrees ((assembled s ids r).application.step st next).2
        (t.step (next.forLimiter r)).2 ∧
      ((assembled s ids r).application.step st next).1.map Exchange.limited =
        (t.step (next.forLimiter r)).1.map not := by
  cases next with
  | advance nanos =>
      refine ⟨⟨agrees.limiter, ?_⟩, rfl⟩
      exact congrArg (· + nanos) agrees.now
  | request q =>
      -- both sides ask one bucket at one instant, whatever its arithmetic says
      rcases checked : st.limiter.check st.now (r.client q).address with ⟨granted, limiter⟩
      obtain ⟨status, sameLimiter, sameNow⟩ :=
        handle_of_check s ids r q st time on checked
      have stepped : t.step (.check (r.client q).address) =
          (some granted, { t with limiter }) := by
        rw [agrees.limiter, agrees.now] at checked
        exact Limiter.Timed.step_check checked
      show Agrees ((assembled s ids r).application.handle q st).state
          (t.step (.check (r.client q).address)).2 ∧
        some (decide (((assembled s ids r).application.handle q st).response.status =
          .tooManyRequests)) = (t.step (.check (r.client q).address)).1.map not
      rw [stepped, status]
      refine ⟨⟨sameLimiter, sameNow.trans agrees.now⟩, ?_⟩
      cases granted with
      | false => rfl
      | true =>
          rw [if_pos rfl, decide_eq_false (Routes.serverStatus_ne_tooManyRequests q)]
          rfl

/-- An answer that is not the limiter's is that of the resources. -/
theorem step_granted (next : Step) {e : Exchange}
    (exchanged : ((assembled s ids r).application.step st next).1 = some e)
    (granted : e.limited = false) : e.response.status = Routes.serverStatus e.request := by
  cases next with
  | advance nanos => exact absurd exchanged (Option.some_ne_none e).symm
  | request q =>
      rcases checked : st.limiter.check st.now (r.client q).address with ⟨outcome, limiter⟩
      obtain ⟨status, _, _⟩ := handle_of_check s ids r q st time on checked
      injection exchanged with exchanged
      subst exchanged
      unfold Exchange.limited at granted
      show ((assembled s ids r).application.handle q st).response.status =
        Routes.serverStatus q
      cases outcome with
      | true => exact status
      | false => exact absurd status (of_decide_eq_false granted)

/-! ## Whole runs -/

/-- The invariant is `Agrees`, kept by every step; from it the answers follow one by one. -/
theorem run_simulates (agrees : Agrees st t) (steps : List Step) :
    ((assembled s ids r).application.run st steps).1.map Exchange.limited =
        (t.checks (steps.map (Step.forLimiter r))).map not ∧
      ∀ e ∈ ((assembled s ids r).application.run st steps).1, e.limited = false →
        e.response.status = Routes.serverStatus e.request := by
  induction steps generalizing st t with
  | nil =>
      refine ⟨rfl, ?_⟩
      intro e impossible
      exact absurd impossible List.not_mem_nil
  | cons next rest ih =>
      obtain ⟨agreesNext, answer⟩ := step_simulates s ids r time on agrees next
      obtain ⟨answers, statuses⟩ := ih agreesNext
      rw [Application.run_cons, List.map_cons, Limiter.Timed.checks_cons]
      constructor
      · rw [List.map_append, List.map_append, answers]
        rw [← Option.toList_map, ← Option.toList_map, answer]
      · intro e member granted
        rcases List.mem_append.mp member with here | later
        · exact step_granted s ids r time on next (Option.mem_toList.mp here) granted
        · exact statuses e later granted

end Simulation

/-- With no time for requests every answer is that the time is up, and neither a bucket nor a
counter changes. -/
theorem run_of_no_time (s : Settings) (ids : Nat → RequestId) (r : Resolver)
    (none : s.timeouts.requestSecs.toNat = 0) (st : ServiceState) (steps : List Step) :
    (∀ e ∈ ((assembled s ids r).application.run st steps).1,
        e.response.status = .requestTimeout) ∧
      ((assembled s ids r).application.run st steps).2.limiter = st.limiter ∧
      ((assembled s ids r).application.run st steps).2.metrics = st.metrics := by
  induction steps generalizing st with
  | nil =>
      refine ⟨?_, rfl, rfl⟩
      intro e impossible
      exact absurd impossible List.not_mem_nil
  | cons next rest ih =>
      rw [Application.run_cons]
      cases next with
      | advance nanos =>
          show (∀ e ∈ ((assembled s ids r).application.run (st.later nanos) rest).1, _) ∧ _
          exact ih (st.later nanos)
      | request q =>
          obtain ⟨status, limiter, metrics⟩ := handle_of_no_time s ids r q st none
          obtain ⟨statuses, laterLimiter, laterMetrics⟩ :=
            ih ((assembled s ids r).application.handle q st).state
          refine ⟨?_, laterLimiter.trans limiter, laterMetrics.trans metrics⟩
          intro e member
          rcases List.mem_cons.mp member with rfl | later
          · exact status
          · exact statuses e later

/-! ## The server of the settings -/

/-- The exchanges of a run of the server from its start. -/
def exchanges (server : Server) (steps : List Step) : List Exchange :=
  (server.application.run server.state steps).1

/-- Where requests have time and the limiter is on, the answers of a run are the limiter's exactly
where a limiter of the same settings, asked at the same instants about the addresses that the
requests resolve to, returns false; the status of any other answer is the one that the server
without the limiter gives to the same request.  Where requests have no time every answer is that
the time is up, and no bucket and no counter changes. -/
theorem run_refines_limiter (s : Settings) (ids : Nat → RequestId) (server : Server)
    (accepted : ofSettings s ids = .ok server) :
    ∃ r unlimited,
      Resolver.ofSettings s.resolution = .ok r ∧
      ofSettings { s with limit := { s.limit with enabled := false } } ids = .ok unlimited ∧
      ∀ steps : List Step,
        (s.limit.enabled = true → 0 < s.timeouts.requestSecs →
          (server.exchanges steps).map Exchange.request = steps.filterMap Step.request? ∧
          (server.exchanges steps).map Exchange.limited =
            (Limiter.Timed.checks ⟨0, .ofSettings s.limit⟩
              (steps.map (Step.forLimiter r))).map not ∧
          ∀ e ∈ server.exchanges steps, e.limited = false → ∀ st,
            (unlimited.application.handle e.request st).response.status = e.response.status) ∧
        (s.timeouts.requestSecs = 0 →
          (∀ e ∈ server.exchanges steps, e.response.status = .requestTimeout) ∧
          (server.application.run server.state steps).2.limiter = server.state.limiter ∧
          (server.application.run server.state steps).2.metrics = server.state.metrics) := by
  obtain ⟨r, made, rfl⟩ := (ofSettings_eq_ok_iff s ids server).mp accepted
  -- the other server differs in its layers only, so it has the same resolver
  let off : Settings := { s with limit := { s.limit with enabled := false } }
  refine ⟨r, assembled off ids r, made, ?_, ?_⟩
  · exact (ofSettings_eq_ok_iff off ids _).mpr ⟨r, made, rfl⟩
  · intro steps
    constructor
    · intro on time
      have seconds : 0 < s.timeouts.requestSecs.toNat := UInt64.lt_iff_toNat_lt.mp time
      have agrees : Agrees (assembled s ids r).state ⟨0, .ofSettings s.limit⟩ := ⟨rfl, rfl⟩
      obtain ⟨answers, statuses⟩ := run_simulates s ids r seconds on agrees steps
      refine ⟨Application.run_requests _ _ steps, answers, ?_⟩
      intro e member granted st
      rw [statuses e member granted]
      exact (handle_of_unlimited off ids r e.request st seconds rfl).1
    · intro none
      have zero : s.timeouts.requestSecs.toNat = 0 := by
        rw [none]
        rfl
      exact run_of_no_time s ids r zero _ steps

/-- Settings of a server behind a proxy that grants every client one request a second. -/
def onePerSecond : Settings :=
  { resolution := { behindProxy := true, forwardedHeader := "x-real-ip".toList }
    limit := { enabled := true, requestsPerSecond := 1, burst := 1 } }

/-- A request of `1.2.3.4`, as the proxy forwards it. -/
def forwarded (method : Method) (path : String) : Request :=
  ⟨method, ⟨path.toList, none⟩,
    ⟨[(⟨"x-real-ip".toList, by decide, by decide⟩,
      ⟨Text.utf8 "1.2.3.4".toList, by decide⟩)]⟩, none⟩

/-- Three requests of one client, the last of them a second after the others. -/
def threeRequests : List Step :=
  [.request (forwarded .get "/ip"),
    .request (forwarded ⟨"POST".toList, by decide⟩ "/nowhere"),
    .advance 1000000000,
    .request (forwarded .get "/health")]

/-- An unknown path and a method that nothing answers take part in the limit. -/
theorem run_refines_limiter_onePerSecond :
    ∃ server, ofSettings onePerSecond (fun _ => ⟨.ofNat 0, by decide, by decide +kernel⟩) =
        .ok server ∧
      (server.exchanges threeRequests).map Exchange.limited = [false, true, false] := by
  have made : Resolver.ofSettings onePerSecond.resolution =
      .ok ⟨true, some ⟨"x-real-ip".toList, by decide, by decide⟩, .empty⟩ := by
    decide +kernel
  have accepted := (ofSettings_eq_ok_iff onePerSecond
    (fun _ => ⟨.ofNat 0, by decide, by decide +kernel⟩) _).mpr ⟨_, made, rfl⟩
  obtain ⟨r, _, same, _, runs⟩ := run_refines_limiter onePerSecond _ _ accepted
  obtain rfl : _ = r := Except.ok.inj (made.symm.trans same)
  obtain ⟨_, answers, _⟩ := (runs threeRequests).1 rfl (by decide)
  refine ⟨_, accepted, ?_⟩
  rw [answers]
  decide +kernel

end Server

end ClientOrigin
