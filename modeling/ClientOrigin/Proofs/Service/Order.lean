import ClientOrigin.Proofs.Service.RequestId
import ClientOrigin.Proofs.Service.Tally

/-!
# Whose bucket a stack asks

A limiter asks the bucket of the address that a visit has when it gets there, and only a resolver
further out has given it one.  So the order of the layers decides what the limit is about.

* **state** — layers other than the limiter leave the buckets and the clock alone, and only the
  resolver counts resolutions (`through_resolves`, `inside_resolves`);
* **step** — the check of one bucket decides about a request (`handle_of_check`), and it leaves
  the stack and a limiter on its own in agreement (`step_keyed`);
* **run** — so the refusals of a run are those of a limiter with that key (`run_keyed`), whatever
  the order of the layers (`run_limited_by_order`).
-/

namespace ClientOrigin

/-! ## What becomes of the state -/

/-- How many resolutions have been counted. -/
def Metrics.resolutions (m : Metrics) : Nat := m.total "client_ip_resolutions_total"

/-- Between two states some clients were resolved, and neither a bucket nor the clock changed. -/
structure Resolves (count : Nat) (before after : ServiceState) : Prop where
  limiter : after.limiter = before.limiter
  now : after.now = before.now
  distinct : before.metrics.Distinct → after.metrics.Distinct
  resolutions : before.metrics.Distinct →
    after.metrics.resolutions = before.metrics.resolutions + count

namespace Resolves

theorem refl (s : ServiceState) : Resolves 0 s s := ⟨rfl, rfl, id, fun _ => rfl⟩

theorem trans {m n : Nat} {a b c : ServiceState} (first : Resolves m a b)
    (second : Resolves n b c) : Resolves (m + n) a c where
  limiter := second.limiter.trans first.limiter
  now := second.now.trans first.now
  distinct h := second.distinct (first.distinct h)
  resolutions h := by
    rw [second.resolutions (first.distinct h), first.resolutions h, Nat.add_assoc]

theorem counting (s : ServiceState) (c : Counter) :
    Resolves (if c.name = "client_ip_resolutions_total" then 1 else 0) s (s.counting c) where
  limiter := rfl
  now := rfl
  distinct h := Metrics.distinct_increment h c
  resolutions h := Metrics.total_increment h c _

theorem identified (ids : Nat → RequestId) (v : Visit) (s : ServiceState) :
    Resolves 0 s (Layer.identified ids v s).2 where
  limiter := Layer.identified_limiter ids v s
  now := Layer.identified_now ids v s
  distinct h := by
    rw [Layer.identified_metrics]
    exact h
  resolutions _ := by rw [Layer.identified_metrics, Nat.add_zero]

/-- The buckets do not matter. -/
theorem withLimiter {n : Nat} {a b : ServiceState} (h : Resolves n a b)
    (limiter : Limiter Binary64) : Resolves n { a with limiter } { b with limiter } :=
  ⟨rfl, h.now, h.distinct, h.resolutions⟩

end Resolves

namespace Layer

section State

variable {env : Environment} {v : Visit} {s : ServiceState}

theorem handOn_resolves {layer : Layer} (other : layer ≠ .rateLimit) {x : Visit × ServiceState}
    (handed : layer.handOn env v s = .ok x) :
    Resolves (if layer = .clientAddress then 1 else 0) s x.2 := by
  cases layer with
  | rateLimit => exact absurd rfl other
  | clientAddress =>
      rw [← Except.ok.inj handed]
      exact .counting s (.resolved (env.resolver.client v.request).source)
  | timeout =>
      rw [handOn] at handed
      split at handed
      · cases handed
      · rw [← Except.ok.inj handed]
        exact .refl s
  | trace =>
      rw [← Except.ok.inj handed]
      exact .refl s
  | propagateId =>
      rw [← Except.ok.inj handed]
      exact .refl s
  | assignId =>
      rw [← Except.ok.inj handed]
      exact .identified env.ids v s

/-- On the way out the answer is counted, which is no resolution. -/
theorem handBack_resolves (layer : Layer) (v : Visit) (o : Outcome) :
    Resolves 0 o.state (layer.handBack env v o).state := by
  cases layer with
  | clientAddress => exact .counting o.state (.served v.request.method o.response.status)
  | propagateId =>
      rw [handBack]
      split <;> exact .refl o.state
  | rateLimit => exact .refl o.state
  | timeout => exact .refl o.state
  | trace => exact .refl o.state
  | assignId => exact .refl o.state

/-- On the way in each resolver counts one resolution. -/
theorem through_resolves {layers : List Layer} (unlimited : .rateLimit ∉ layers)
    {x : Visit × ServiceState} (passed : through env layers v s = .ok x) :
    Resolves (layers.count .clientAddress) s x.2 := by
  refine through_induction (motive := fun layers _ after =>
    .rateLimit ∉ layers → Resolves (layers.count .clientAddress) s after) ?_ ?_ passed unlimited
  · intro _
    exact .refl s
  · intro layer outer x y before handed free
    rw [List.mem_cons, not_or] at free
    have step := (before free.2).trans (handOn_resolves (Ne.symm free.1) handed)
    rw [List.count_cons]
    simp only [beq_iff_eq]
    exact step

/-- On the way out of a stack no resolution is counted. -/
theorem inside_resolves {layers : List Layer} {x : Visit × ServiceState}
    (passed : through env layers v s = .ok x) (inner : Service) :
    Resolves 0 (inner x.1 x.2).state (inner.inside env layers v s).state := by
  induction layers generalizing inner x with
  | nil =>
      obtain rfl := Except.ok.inj passed
      exact .refl _
  | cons layer outer ih =>
      rw [inside_cons]
      unfold through at passed
      split at passed
      · cases passed
      · next y before =>
          have outside := ih before (layer.around env inner)
          rw [around_eq, passed] at outside
          exact (handBack_resolves layer y.1 (inner x.1 x.2)).trans outside

/-- Every visit comes through layers that never answer by themselves. -/
theorem exists_through (env : Environment) {layers : List Layer} (unlimited : .rateLimit ∉ layers)
    (untimed : .timeout ∉ layers) (v : Visit) (s : ServiceState) :
    ∃ x, through env layers v s = .ok x := by
  induction layers with
  | nil => exact ⟨(v, s), rfl⟩
  | cons layer outer ih =>
      rw [List.mem_cons, not_or] at unlimited untimed
      obtain ⟨x, passed⟩ := ih unlimited.2 untimed.2
      rw [through, passed]
      cases handed : layer.handOn env x.1 x.2 with
      | ok y => exact ⟨y, handed⟩
      | error o =>
          rcases handOn_error_cases handed with ⟨limit, _⟩ | ⟨time, _⟩
          · exact absurd limit.symm unlimited.1
          · exact absurd time.symm untimed.1

/-- Behind some layers the client is known exactly if one of them is the resolver, and then it is
the client of the request as it came. -/
theorem through_client {q : Request} {st : ServiceState} {layers : List Layer}
    {x : Visit × ServiceState} (passed : through env layers (.ofRequest q) st = .ok x) :
    env.resolver.client x.1.request = env.resolver.client q ∧
      x.1.client = if .clientAddress ∈ layers then some (env.resolver.client q) else none := by
  refine through_induction (motive := fun layers v _ =>
    env.resolver.client v.request = env.resolver.client q ∧
      v.client = if .clientAddress ∈ layers then some (env.resolver.client q) else none)
    ?_ ?_ passed
  · exact ⟨rfl, (if_neg List.not_mem_nil).symm⟩
  · intro layer outer x y known handed
    rcases handOn_ok_cases handed with ⟨rfl, rfl⟩ | ⟨rfl, rfl⟩ | ⟨_, other, _, rfl⟩
    · refine ⟨(client_identified _ env.ids x.1 x.2).trans known.1, ?_⟩
      rw [identified_client, known.2]
      simp
    · refine ⟨known.1, ?_⟩
      rw [if_pos List.mem_cons_self, ← known.1]
      rfl
    · refine ⟨known.1, known.2.trans ?_⟩
      simp [Ne.symm other]

end State

/-- The address whose bucket a limiter asks inside some layers. -/
def keyInside (r : Resolver) (outer : List Layer) (q : Request) : Address :=
  if .clientAddress ∈ outer then (r.client q).address else .unspecified

theorem through_clientAddress {env : Environment} {q : Request} {st : ServiceState}
    {layers : List Layer} {x : Visit × ServiceState}
    (passed : through env layers (.ofRequest q) st = .ok x) :
    x.1.clientAddress = keyInside env.resolver layers q := by
  unfold Visit.clientAddress keyInside
  rw [(through_client passed).2]
  split
  · next client known =>
      split at known
      · next found => rw [if_pos found, Option.some.inj known]
      · cases known
  · next unknown =>
      split at unknown
      · cases unknown
      · next absent => rw [if_neg absent]

end Layer

/-! ## One step -/

namespace Application

open Layer

/-- What a limiter with the given key sees of a step. -/
def Step.keyed (key : Request → Address) : Step → Limiter.Step
  | .request q => .check (key q)
  | .advance nanos => .advance nanos

/-- The stack around the limiter, with what stands inside the limiter as one service. -/
theorem handle_around {app : Application} {inner outer : List Layer}
    (stack : app.layers = inner ++ .rateLimit :: outer) (q : Request) (st : ServiceState) :
    let around := Service.inside app.environment outer
      (limiting (Service.inside app.environment inner app.routes.service)) (.ofRequest q) st
    (app.handle q st).response.status = around.response.status ∧
      (app.handle q st).state = around.state := by
  have nested : Service.inside app.environment app.layers app.routes.service =
      Service.inside app.environment outer
        (limiting (Service.inside app.environment inner app.routes.service)) := by
    rw [stack, inside_append, inside_cons]
    rfl
  intro around
  rw [show around = Service.inside app.environment app.layers app.routes.service (.ofRequest q) st
    from congrFun (congrFun nested.symm _) _]
  exact ⟨Routes.completed_status app.routes q _, rfl⟩

section Stack

variable {app : Application} (plain : app.routes.Plain) (single : app.layers.Nodup)
variable (untimed : .timeout ∉ app.layers) {inner outer : List Layer}
variable (stack : app.layers = inner ++ .rateLimit :: outer)

include plain single untimed stack

/-- One check decides about a request.  The resolver counts it if it stands outside the limiter,
and if it stands inside and the check has let the request pass. -/
theorem handle_of_check (q : Request) (st : ServiceState) {granted : Bool}
    {limiter : Limiter Binary64}
    (checked : st.limiter.check st.now (keyInside app.environment.resolver outer q) =
      (granted, limiter)) :
    ((app.handle q st).response.status = .tooManyRequests ↔ granted = false) ∧
      Resolves (outer.count .clientAddress + if granted then inner.count .clientAddress else 0)
        { st with limiter } (app.handle q st).state := by
  obtain ⟨unlimited, unlimitedOuter⟩ := not_mem_of_nodup (stack ▸ single)
  rw [stack, List.mem_append, not_or, List.mem_cons, not_or] at untimed
  let core : Service := Service.inside app.environment inner app.routes.service
  obtain ⟨status, state⟩ := handle_around stack q st
  obtain ⟨x, passed⟩ := exists_through app.environment unlimitedOuter untimed.2.2
    (.ofRequest q) st
  have arrived := through_resolves unlimitedOuter passed
  have left := inside_resolves passed (limiting core)
  have answer := inside_answer app.environment outer (limiting core) (.ofRequest q) st
  rw [passed] at answer
  -- the limiter is asked in the state and about the client that the outer layers hand on
  rw [← arrived.limiter, ← arrived.now, ← through_clientAddress passed] at checked
  have limited := limiting_of_check checked core
  rw [status, state, answer.1]
  rw [limited] at left ⊢
  cases granted with
  | false =>
      refine ⟨iff_of_true rfl rfl, ?_⟩
      exact ((arrived.withLimiter limiter).trans (.counting _ .limited)).trans left
  | true =>
      obtain ⟨y, reached⟩ := exists_through app.environment unlimited untimed.1 x.1
        { x.2 with limiter }
      have within := inside_answer app.environment inner app.routes.service x.1
        { x.2 with limiter }
      rw [reached] at within
      have served : (core x.1 { x.2 with limiter }).response.status ≠ .tooManyRequests := by
        rw [within.1]
        exact (plain y.1).granted
      refine ⟨iff_of_false served Bool.noConfusion, ?_⟩
      have inward := (arrived.withLimiter limiter).trans (through_resolves unlimited reached)
      exact (inward.trans (inside_resolves reached app.routes.service)).trans left

variable {st : ServiceState} {t : Limiter.Timed Binary64}

/-- A step of the stack and the same step of the limiter agree again, with the same decision. -/
theorem step_keyed (agrees : Server.Agrees st t) (distinct : st.metrics.Distinct) (next : Step) :
    let taken := app.step st next
    let checked := t.step (next.keyed (keyInside app.environment.resolver outer))
    Server.Agrees taken.2 checked.2 ∧ taken.2.metrics.Distinct ∧
      taken.1.map Exchange.limited = checked.1.map not ∧
      taken.2.metrics.resolutions = st.metrics.resolutions +
        (outer.count .clientAddress * taken.1.toList.length +
          inner.count .clientAddress * taken.1.toList.countP fun e => !e.limited) := by
  intro taken checked
  cases next with
  | advance nanos =>
      exact ⟨⟨agrees.limiter, congrArg (· + nanos) agrees.now⟩, distinct, rfl, rfl⟩
  | request q =>
      rcases asked : st.limiter.check st.now (keyInside app.environment.resolver outer q) with
        ⟨granted, limiter⟩
      obtain ⟨status, resolves⟩ := handle_of_check plain single untimed stack q st asked
      have stepped : checked = (some granted, { t with limiter }) := by
        rw [agrees.limiter, agrees.now] at asked
        exact Limiter.Timed.step_check asked
      have decision : Exchange.limited ⟨q, (app.handle q st).response, (app.handle q st).events⟩ =
          !granted := by
        unfold Exchange.limited
        cases granted with
        | false => exact decide_eq_true (status.mpr rfl)
        | true => exact decide_eq_false fun refused => Bool.noConfusion (status.mp refused)
      have counted : (app.handle q st).state.metrics.resolutions = st.metrics.resolutions +
          (outer.count .clientAddress + if granted then inner.count .clientAddress else 0) :=
        resolves.resolutions distinct
      rw [stepped]
      refine ⟨⟨resolves.limiter, resolves.now.trans agrees.now⟩, resolves.distinct distinct,
        congrArg some decision, ?_⟩
      show (app.handle q st).state.metrics.resolutions = _ + (_ * [_].length +
        _ * [Exchange.mk q (app.handle q st).response (app.handle q st).events].countP _)
      rw [counted, List.countP_singleton, decision, List.length_singleton]
      cases granted <;> simp

/-! ## Runs -/

/-- The invariant is that the stack and the limiter have the same buckets and the same clock. -/
theorem run_keyed (agrees : Server.Agrees st t) (distinct : st.metrics.Distinct)
    (steps : List Step) :
    let run := app.run st steps
    run.1.map Exchange.limited =
        (t.checks (steps.map (Step.keyed (keyInside app.environment.resolver outer)))).map not ∧
      run.2.metrics.resolutions = st.metrics.resolutions +
        (outer.count .clientAddress * run.1.length +
          inner.count .clientAddress * run.1.countP fun e => !e.limited) := by
  induction steps generalizing st t with
  | nil => exact ⟨rfl, rfl⟩
  | cons next rest ih =>
      obtain ⟨agreesNext, distinctNext, decision, counted⟩ :=
        step_keyed plain single untimed stack agrees distinct next
      obtain ⟨decisions, total⟩ := ih agreesNext distinctNext
      rw [run_cons, List.map_cons, Limiter.Timed.checks_cons]
      constructor
      · rw [List.map_append, List.map_append, decisions, ← Option.toList_map,
          ← Option.toList_map, decision]
      · rw [total, counted, List.length_append, List.countP_append, Nat.mul_add, Nat.mul_add]
        omega

end Stack

end Application

/-! ## The order of the layers -/

namespace Layer

/-- Inside of a layer stand those before it in the stack. -/
theorem liesOutside_iff_mem_inner {inner outer : List Layer} {other : Layer}
    (single : (inner ++ other :: outer).Nodup) (layer : Layer) :
    LiesOutside (inner ++ other :: outer) other layer ↔ layer ∈ inner := by
  obtain ⟨inside, outside⟩ := not_mem_of_nodup single
  constructor
  · rintro ⟨front, back, split, mem⟩
    obtain ⟨middle, outer', rfl⟩ := List.append_of_mem mem
    have longer : inner ++ other :: outer = (front ++ layer :: middle) ++ other :: outer' := by
      rw [split, List.append_assoc, List.cons_append]
    obtain ⟨rfl, _⟩ := (List.append_cons_inj_of_notMem inside outside).mp longer
    exact List.mem_append_right front List.mem_cons_self
  · intro mem
    obtain ⟨front, middle, rfl⟩ := List.append_of_mem mem
    refine ⟨front, middle ++ other :: outer, ?_, List.mem_append_right middle List.mem_cons_self⟩
    rw [List.append_assoc, List.cons_append]

section Counts

variable {inner outer : List Layer} {layer other : Layer}
variable (single : (inner ++ other :: outer).Nodup)

include single

theorem count_of_mem_outer (mem : layer ∈ outer) :
    outer.count layer = 1 ∧ inner.count layer = 0 := by
  obtain ⟨_, around, apart⟩ := List.nodup_append.mp single
  refine ⟨List.count_eq_one_of_mem (List.nodup_cons.mp around).2 mem, ?_⟩
  exact List.count_eq_zero.mpr fun nearer => apart _ nearer _ (List.mem_cons_of_mem _ mem) rfl

theorem count_of_mem_inner (mem : layer ∈ inner) :
    outer.count layer = 0 ∧ inner.count layer = 1 := by
  obtain ⟨near, _, apart⟩ := List.nodup_append.mp single
  refine ⟨?_, List.count_eq_one_of_mem near mem⟩
  exact List.count_eq_zero.mpr fun further => apart _ mem _ (List.mem_cons_of_mem _ further) rfl

end Counts

end Layer

namespace Application

open Layer

theorem ofLayers_resolver {layers : List Layer} {s : Settings} {ids : Nat → RequestId}
    {app : Application} (made : ofLayers layers s ids = .ok app)
    (resolving : .clientAddress ∈ layers) :
    Resolver.ofSettings s.resolution = .ok app.environment.resolver := by
  unfold ofLayers resolverFor at made
  rw [if_pos resolving] at made
  cases resolver : Resolver.ofSettings s.resolution with
  | error e =>
      rw [resolver] at made
      cases made
  | ok r =>
      rw [resolver] at made
      rw [← Except.ok.inj made]

/-- **The order of the layers.**  In a stack without repetitions that has a limiter, the refusals
of a run are those of a limiter on its own, asked in the order of the requests and at the same
instants: about the resolved addresses if the resolver stands outside the limiter, and about
`0.0.0.0` for all requests if it does not, so that nothing in a request matters.  In the first case
every request is counted as resolved, and with the resolver inside the limiter those that were
granted. -/
theorem run_limited_by_order (layers : List Layer) (s : Settings) (ids : Nat → RequestId)
    (app : Application) (made : ofLayers layers s ids = .ok app) (single : layers.Nodup)
    (known : ∀ layer ∈ layers, layer ∈ [.rateLimit, .clientAddress, .propagateId, .assignId])
    (limited : .rateLimit ∈ layers) (steps : List Step) :
    let start := ServiceState.start (.ofSettings s.limit)
    let exchanges := (app.run start steps).1
    let resolutions := (app.run start steps).2.metrics.total "client_ip_resolutions_total"
    let checks := fun key => Limiter.Timed.checks ⟨0, .ofSettings s.limit⟩
      (steps.map (Step.keyed key))
    exchanges.map Exchange.request = steps.filterMap Step.request? ∧
    (LiesOutside layers .clientAddress .rateLimit →
      (∃ r, Resolver.ofSettings s.resolution = .ok r ∧
        exchanges.map Exchange.limited = (checks fun q => (r.client q).address).map not) ∧
      resolutions = exchanges.length) ∧
    (¬ LiesOutside layers .clientAddress .rateLimit →
      exchanges.map Exchange.limited = (checks fun _ => .unspecified).map not ∧
      ∀ others, others.map (Step.keyed fun _ => .unspecified) =
          steps.map (Step.keyed fun _ => .unspecified) →
        (app.run start others).1.map Exchange.limited = exchanges.map Exchange.limited) ∧
    (LiesOutside layers .rateLimit .clientAddress →
      resolutions = exchanges.countP fun e => !e.limited) := by
  intro start exchanges resolutions checks
  obtain ⟨r, rfl⟩ := ofLayers_eq_ok made
  let app : Application := ⟨⟨r, s.timeouts.requestSecs.toNat, ids⟩, layers, .probe⟩
  have plain : app.routes.Plain := Routes.plain_probe
  have untimed : .timeout ∉ app.layers := fun timed => absurd (known _ timed) (by decide)
  obtain ⟨inner, outer, stack⟩ := List.append_of_mem limited
  have agrees : Server.Agrees start ⟨0, .ofSettings s.limit⟩ := ⟨rfl, rfl⟩
  have runs := run_keyed plain single untimed stack agrees List.nodup_nil
  obtain ⟨decisions, total⟩ := runs steps
  have outside := liesOutside_iff (stack ▸ single) .clientAddress
  have inside := liesOutside_iff_mem_inner (stack ▸ single) .clientAddress
  rw [← stack] at outside inside
  have none : start.metrics.resolutions = 0 := rfl
  rw [none, Nat.zero_add] at total
  refine ⟨run_requests app start steps, fun found => ?_, fun absent => ?_, fun found => ?_⟩
  · have resolving := outside.mp found
    have mem : .clientAddress ∈ layers := stack ▸ List.mem_append_right inner
      (List.mem_cons_of_mem _ resolving)
    have key : keyInside r outer = fun q => (r.client q).address := by
      funext q
      exact if_pos resolving
    obtain ⟨once, never⟩ := count_of_mem_outer (stack ▸ single) resolving
    rw [once, never, Nat.one_mul, Nat.zero_mul, Nat.add_zero] at total
    exact ⟨⟨r, ofLayers_resolver made mem, key ▸ decisions⟩, total⟩
  · have key : keyInside r outer = fun _ => .unspecified := by
      funext q
      exact if_neg fun resolving => absent (outside.mpr resolving)
    have blind : ∀ steps, (app.run start steps).1.map Exchange.limited =
        (Limiter.Timed.checks ⟨0, .ofSettings s.limit⟩
          (steps.map (Step.keyed fun _ => .unspecified))).map not := by
      intro steps
      rw [← key]
      exact (runs steps).1
    refine ⟨blind steps, fun others same => ?_⟩
    rw [blind others, same]
    exact (blind steps).symm
  · obtain ⟨never, once⟩ := count_of_mem_inner (stack ▸ single) (inside.mp found)
    rw [once, never, Nat.one_mul, Nat.zero_mul, Nat.zero_add] at total
    exact total

/-- Two clients at one moment, with one token for each bucket: around the limiter the resolver
keeps them apart, and inside it they share a bucket. -/
theorem run_limited_by_order_twoClients :
    let ids : Nat → RequestId := fun _ => ⟨.ofNat 21, by decide, by decide +kernel⟩
    let steps : List Step := [.request (Server.forwarded .get "/ip"),
      .request ⟨.get, ⟨"/ip".toList, none⟩, .empty, none⟩]
    let start := ServiceState.start (.ofSettings Server.onePerSecond.limit)
    ∃ near far,
      ofLayers [.rateLimit, .clientAddress] Server.onePerSecond ids = .ok near ∧
      ofLayers [.clientAddress, .rateLimit] Server.onePerSecond ids = .ok far ∧
      (near.run start steps).1.map Exchange.limited = [false, false] ∧
      (near.run start steps).2.metrics.total "client_ip_resolutions_total" = 2 ∧
      (far.run start steps).1.map Exchange.limited = [false, true] ∧
      (far.run start steps).2.metrics.total "client_ip_resolutions_total" = 1 := by
  intro ids steps start
  let r : Resolver := ⟨true, some ⟨"x-real-ip".toList, by decide, by decide⟩, .empty⟩
  let app (layers : List Layer) : Application :=
    ⟨⟨r, Server.onePerSecond.timeouts.requestSecs.toNat, ids⟩, layers, .probe⟩
  have resolver : Resolver.ofSettings Server.onePerSecond.resolution = .ok r := by decide +kernel
  have made : ∀ layers, .clientAddress ∈ layers →
      ofLayers layers Server.onePerSecond ids = .ok (app layers) := by
    intro layers resolving
    unfold ofLayers resolverFor
    rw [if_pos resolving, resolver]
    rfl
  have around : LiesOutside [.rateLimit, .clientAddress] .clientAddress .rateLimit :=
    ⟨[], [.clientAddress], rfl, by decide⟩
  have within : LiesOutside [.clientAddress, .rateLimit] .rateLimit .clientAddress :=
    ⟨[], [.rateLimit], rfl, by decide⟩
  have apart : ¬ LiesOutside [.clientAddress, .rateLimit] .clientAddress .rateLimit := by
    show ¬ LiesOutside ([.clientAddress] ++ .rateLimit :: []) .clientAddress .rateLimit
    rw [liesOutside_iff (by decide)]
    exact List.not_mem_nil
  obtain ⟨_, separate, _, _⟩ := run_limited_by_order [.rateLimit, .clientAddress]
    Server.onePerSecond ids _ (made _ (by decide)) (by decide) (by decide) (by decide) steps
  obtain ⟨_, _, shared, granted⟩ := run_limited_by_order [.clientAddress, .rateLimit]
    Server.onePerSecond ids _ (made _ (by decide)) (by decide) (by decide) (by decide) steps
  obtain ⟨⟨r', same, decisions⟩, counted⟩ := separate around
  obtain rfl : r = r' := Except.ok.inj (resolver.symm.trans same)
  refine ⟨app _, app _, made _ (by decide), made _ (by decide), ?_, ?_, ?_, ?_⟩
  · rw [decisions]
    decide +kernel
  · rw [counted]
    decide +kernel
  · rw [(shared apart).1]
    decide +kernel
  · rw [granted within]
    decide +kernel

end Application

end ClientOrigin
