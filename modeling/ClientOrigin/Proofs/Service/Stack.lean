import ClientOrigin.Proofs.Service.Layers

/-!
# Stacks of layers

What becomes of a visit in a stack of layers, in whatever order they stand.  A layer hands the
visit on to the service inside it and the outcome back, or it answers by itself (`around_eq`).

* **in** — a visit that every layer hands on comes through the stack (`through`);
* **out** — a layer that neither changes what a view shows of an outcome nor shows anything in an
  answer of its own is clear for that view; through clear layers one sees what the service inside
  has done (`view_inside`);
* **answer** — an answer has the status and the body that the service inside has given, or it is
  the refusal of one of the layers (`inside_answer`).
-/

namespace ClientOrigin

namespace Layer

/-! ## One layer -/

/-- The status of the answers that a layer gives by itself. -/
def refusal? : Layer → Option Status
  | .rateLimit => some .tooManyRequests
  | .timeout => some .requestTimeout
  | _ => none

theorem refusal?_inj {layer other : Layer} {status : Status}
    (first : layer.refusal? = some status) (second : other.refusal? = some status) :
    layer = other := by
  cases layer <;> cases first <;> cases other <;> cases second <;> rfl

section Layers

variable (env : Environment)

/-- The visit and the state that a layer hands on, or the outcome if it answers by itself. -/
def handOn : Layer → Visit → ServiceState → Except Outcome (Visit × ServiceState)
  | .rateLimit, v, s =>
    let check := s.limiter.check s.now v.clientAddress
    let s := { s with limiter := check.2 }
    if check.1 then .ok (v, s)
    else
      .error ⟨.plain .tooManyRequests "Rate limit exceeded".toList,
        [limitExceeded v.clientAddress], s.counting .limited⟩
  | .clientAddress, v, s => .ok (resolved env.resolver v, resolvedState env.resolver v s)
  | .timeout, v, s =>
    if env.requestSecs = 0 then .error ⟨.empty .requestTimeout, [], s⟩ else .ok (v, s)
  | .trace, v, s => .ok (v, s)
  | .propagateId, v, s => .ok (v, s)
  | .assignId, v, s => .ok (identified env.ids v s)

/-- What a layer makes of the outcome of the service inside it. -/
def handBack : Layer → Visit → Outcome → Outcome
  | .clientAddress, v, o =>
    ⟨o.response,
      (env.resolver.resolve v.request.headers v.request.peerText).2 ++ o.events ++
        [requestCompleted (resolved env.resolver v) (env.resolver.client v.request)
          o.response.status],
      o.state.counting (.served v.request.method o.response.status)⟩
  | .trace, v, o => o.after [requestSpan v]
  | .propagateId, v, o =>
    match v.request.headers.first? .requestId with
    | none => o
    | some id =>
      { o with response :=
        { o.response with headers := o.response.headers.addMissing .requestId id } }
  | _, _, o => o

theorem around_eq (layer : Layer) (inner : Service) (v : Visit) (s : ServiceState) :
    layer.around env inner v s =
      match layer.handOn env v s with
      | .error o => o
      | .ok x => layer.handBack env v (inner x.1 x.2) := by
  cases layer with
  | rateLimit =>
      rcases checked : s.limiter.check s.now v.clientAddress with ⟨granted, limiter⟩
      show limiting inner v s = _
      rw [limiting_of_check checked, handOn, checked]
      cases granted <;> rfl
  | clientAddress => rfl
  | timeout =>
      show (if env.requestSecs = 0 then _ else inner v s) = _
      rw [handOn]
      split <;> rfl
  | trace => rfl
  | propagateId => rfl
  | assignId => exact assigning_eq env.ids inner v s

/-- An outcome that is handed back keeps its status and its body. -/
theorem handBack_answer (layer : Layer) (v : Visit) (o : Outcome) :
    (layer.handBack env v o).response.status = o.response.status ∧
      (layer.handBack env v o).response.body = o.response.body := by
  cases layer with
  | propagateId =>
      rw [handBack]
      split <;> exact ⟨rfl, rfl⟩
  | rateLimit => exact ⟨rfl, rfl⟩
  | clientAddress => exact ⟨rfl, rfl⟩
  | timeout => exact ⟨rfl, rfl⟩
  | trace => exact ⟨rfl, rfl⟩
  | assignId => exact ⟨rfl, rfl⟩

variable {env} {layer : Layer} {v : Visit} {s : ServiceState}

/-- All that a layer can hand on: one layer gives an id, one resolves the client, and the others
leave the visit alone. -/
theorem handOn_ok_cases {x : Visit × ServiceState} (handed : layer.handOn env v s = .ok x) :
    (layer = .assignId ∧ x = identified env.ids v s) ∨
    (layer = .clientAddress ∧ x = (resolved env.resolver v, resolvedState env.resolver v s)) ∨
    (layer ≠ .assignId ∧ layer ≠ .clientAddress ∧ ∃ limiter, x = (v, { s with limiter })) := by
  cases layer with
  | assignId => exact .inl ⟨rfl, (Except.ok.inj handed).symm⟩
  | clientAddress => exact .inr (.inl ⟨rfl, (Except.ok.inj handed).symm⟩)
  | rateLimit =>
      refine .inr (.inr ⟨Layer.noConfusion, Layer.noConfusion, ?_⟩)
      rcases checked : s.limiter.check s.now v.clientAddress with ⟨granted, limiter⟩
      rw [handOn, checked] at handed
      cases granted with
      | true => exact ⟨limiter, (Except.ok.inj handed).symm⟩
      | false => cases handed
  | timeout =>
      refine .inr (.inr ⟨Layer.noConfusion, Layer.noConfusion, s.limiter, ?_⟩)
      rw [handOn] at handed
      split at handed
      · cases handed
      · exact (Except.ok.inj handed).symm
  | trace =>
      exact .inr (.inr ⟨Layer.noConfusion, Layer.noConfusion, s.limiter,
        (Except.ok.inj handed).symm⟩)
  | propagateId =>
      exact .inr (.inr ⟨Layer.noConfusion, Layer.noConfusion, s.limiter,
        (Except.ok.inj handed).symm⟩)

/-- All that a layer can answer by itself: that a client is over its limit, or that the time is
up. -/
theorem handOn_error_cases {o : Outcome} (refused : layer.handOn env v s = .error o) :
    (layer = .rateLimit ∧ o.response = .plain .tooManyRequests "Rate limit exceeded".toList ∧
      o.events = [limitExceeded v.clientAddress]) ∨
    (layer = .timeout ∧ o.response = .empty .requestTimeout ∧ o.events = []) := by
  cases layer with
  | rateLimit =>
      rcases checked : s.limiter.check s.now v.clientAddress with ⟨granted, limiter⟩
      rw [handOn, checked] at refused
      cases granted with
      | true => cases refused
      | false =>
          rw [← Except.error.inj refused]
          exact .inl ⟨rfl, rfl, rfl⟩
  | timeout =>
      rw [handOn] at refused
      split at refused
      · rw [← Except.error.inj refused]
        exact .inr ⟨rfl, rfl, rfl⟩
      · cases refused
  | clientAddress => cases refused
  | trace => cases refused
  | propagateId => cases refused
  | assignId => cases refused

/-- The status of an answer of its own tells which layer has given it. -/
theorem refusal?_of_handOn {o : Outcome} (refused : layer.handOn env v s = .error o) :
    layer.refusal? = some o.response.status := by
  rcases handOn_error_cases refused with ⟨rfl, response, _⟩ | ⟨rfl, response, _⟩
  · rw [response]
    rfl
  · rw [response]
    rfl

/-- Every layer hands on what was asked for. -/
theorem handOn_request {x : Visit × ServiceState} (handed : layer.handOn env v s = .ok x) :
    x.1.request.method = v.request.method ∧ x.1.request.target = v.request.target := by
  rcases handOn_ok_cases handed with ⟨_, rfl⟩ | ⟨_, rfl⟩ | ⟨_, _, _, rfl⟩
  · exact ⟨identified_method env.ids v s, identified_target env.ids v s⟩
  · exact ⟨rfl, rfl⟩
  · exact ⟨rfl, rfl⟩

end Layers

/-! ## Stacks -/

theorem inside_append (env : Environment) (near outer : List Layer) (inner : Service) :
    inner.inside env (near ++ outer) = Service.inside env outer (inner.inside env near) := by
  unfold Service.inside
  exact List.foldl_append

theorem inside_cons (env : Environment) (layer : Layer) (outer : List Layer) (inner : Service) :
    inner.inside env (layer :: outer) = Service.inside env outer (layer.around env inner) := rfl

theorem not_mem_of_nodup {inner outer : List Layer} {layer : Layer}
    (single : (inner ++ layer :: outer).Nodup) : layer ∉ inner ∧ layer ∉ outer := by
  obtain ⟨_, around, apart⟩ := List.nodup_append.mp single
  exact ⟨fun mem => apart _ mem _ List.mem_cons_self rfl, (List.nodup_cons.mp around).1⟩

/-- What comes through some layers, the innermost first, or the outcome of the layer that answers
by itself. -/
def through (env : Environment) :
    List Layer → Visit → ServiceState → Except Outcome (Visit × ServiceState)
  | [], v, s => .ok (v, s)
  | layer :: outer, v, s =>
    match through env outer v s with
    | .error o => .error o
    | .ok x => layer.handOn env x.1 x.2

/-- What every layer keeps holds of all that comes through. -/
theorem through_induction {env : Environment} {v : Visit} {s : ServiceState}
    {motive : List Layer → Visit → ServiceState → Prop} (entry : motive [] v s)
    (step : ∀ (layer : Layer) outer (x y : Visit × ServiceState), motive outer x.1 x.2 →
      layer.handOn env x.1 x.2 = .ok y → motive (layer :: outer) y.1 y.2)
    {layers : List Layer} {x : Visit × ServiceState} (passed : through env layers v s = .ok x) :
    motive layers x.1 x.2 := by
  induction layers generalizing x with
  | nil =>
      cases passed
      exact entry
  | cons layer outer ih =>
      unfold through at passed
      split at passed
      · cases passed
      · next y before => exact step layer outer y x (ih before) passed

/-! ## Views of the outcome -/

section View

variable {env : Environment} {β : Type} {view : Outcome → List β}

/-- The layer neither changes what the view shows of an outcome, nor shows anything in an answer
of its own. -/
structure Clear (env : Environment) (view : Outcome → List β) (layer : Layer) : Prop where
  back : ∀ v o, view (layer.handBack env v o) = view o
  own : ∀ v s o, layer.handOn env v s = .error o → view o = []

theorem Clear.view_around {layer : Layer} (clear : layer.Clear env view) (inner : Service)
    (v : Visit) (s : ServiceState) :
    view (layer.around env inner v s) =
      match layer.handOn env v s with
      | .error _ => []
      | .ok x => view (inner x.1 x.2) := by
  rw [around_eq]
  cases handed : layer.handOn env v s with
  | error o => exact clear.own v s o handed
  | ok x => exact clear.back v (inner x.1 x.2)

/-- Through clear layers the view shows what the service inside them has done, if the visit came
through. -/
theorem view_inside {layers : List Layer} (clear : ∀ layer ∈ layers, layer.Clear env view)
    (inner : Service) (v : Visit) (s : ServiceState) :
    view (inner.inside env layers v s) =
      match through env layers v s with
      | .error _ => []
      | .ok x => view (inner x.1 x.2) := by
  induction layers generalizing inner with
  | nil => rfl
  | cons layer outer ih =>
      have here := clear layer List.mem_cons_self
      have further := ih fun other mem => clear other (List.mem_cons_of_mem layer mem)
      rw [inside_cons, further (layer.around env inner), through]
      cases through env outer v s with
      | error o => rfl
      | ok x => exact here.view_around inner x.1 x.2

end View

/-- An answer has the status and the body that the service inside has given, if the visit came
through, or else it is the refusal of one of the layers. -/
theorem inside_answer (env : Environment) (layers : List Layer) (inner : Service) (v : Visit)
    (s : ServiceState) :
    match through env layers v s with
    | .error _ => ∃ layer ∈ layers,
        layer.refusal? = some (inner.inside env layers v s).response.status
    | .ok x =>
        (inner.inside env layers v s).response.status = (inner x.1 x.2).response.status ∧
          (inner.inside env layers v s).response.body = (inner x.1 x.2).response.body := by
  induction layers generalizing inner with
  | nil => exact ⟨rfl, rfl⟩
  | cons layer outer ih =>
      have outside := ih (layer.around env inner)
      rw [inside_cons, through]
      cases before : through env outer v s with
      | error o =>
          rw [before] at outside
          obtain ⟨other, mem, refused⟩ := outside
          exact ⟨other, List.mem_cons_of_mem layer mem, refused⟩
      | ok x =>
          rw [before] at outside
          dsimp only at outside ⊢
          rw [outside.1, outside.2, around_eq]
          cases handed : layer.handOn env x.1 x.2 with
          | error o => exact ⟨layer, List.mem_cons_self, refusal?_of_handOn handed⟩
          | ok y => exact handBack_answer env layer x.1 _

end Layer

end ClientOrigin
