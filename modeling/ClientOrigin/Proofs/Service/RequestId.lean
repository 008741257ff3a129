import ClientOrigin.Proofs.Resolve.Fallback
import ClientOrigin.Proofs.Service.RateLimit
import ClientOrigin.Proofs.Service.Resources
import Mathlib.Data.List.Basic

/-!
# Request ids

An id travels in two places: among the headers of a request, where the echo finds it, and beside
the request, where resources and the log read it.

* **in** — behind a layer that gives out ids both places hold the id of the request, and in front
  of it neither has changed (`through_knowsId`);
* **out** — only the echo writes an id into an answer (`handle_ids`), and only the resolver reports
  that a request has been answered (`handle_reports`);
* `handle_requestId` puts both together, for stacks in any order and for the server.
-/

namespace ClientOrigin

/-- The id of a request: the first that it brings along, or else the next to be given out. -/
def Request.idFrom (q : Request) (ids : Nat → RequestId) (st : ServiceState) : HeaderValue :=
  (q.headers.first? .requestId).getD (ids st.issued).value

namespace Outcome

/-- The ids in an answer. -/
def ids (o : Outcome) : List HeaderValue := o.response.headers.all .requestId

/-- The reports that a request has been answered. -/
def reports (o : Outcome) : List LogEvent :=
  o.events.filter fun event => event.text = "Request completed"

end Outcome

namespace Layer

/-! ## On the way in -/

/-- What is known behind some layers about the id of a request. -/
structure KnowsId (q : Request) (ids : Nat → RequestId) (st : ServiceState) (layers : List Layer)
    (v : Visit) (s : ServiceState) : Prop where
  given : .assignId ∈ layers → v.id = some (q.idFrom ids st) ∧
    v.request.headers.first? .requestId = some (q.idFrom ids st)
  own : .assignId ∉ layers → v.id = none ∧
    v.request.headers.first? .requestId = q.headers.first? .requestId ∧ s.issued = st.issued

variable {env : Environment}

theorem handOn_of_ne {layer : Layer} (other : layer ≠ .assignId) {v : Visit} {s : ServiceState}
    {x : Visit × ServiceState} (handed : layer.handOn env v s = .ok x) :
    x.1.id = v.id ∧ x.1.request = v.request ∧ x.2.issued = s.issued := by
  rcases handOn_ok_cases handed with ⟨giving, _⟩ | ⟨_, rfl⟩ | ⟨_, _, _, rfl⟩
  · exact absurd giving other
  · exact ⟨rfl, rfl, rfl⟩
  · exact ⟨rfl, rfl, rfl⟩

/-- The layer that gives out ids changes nothing once a visit has one. -/
theorem identified_of_given (ids : Nat → RequestId) {v : Visit} {id : HeaderValue}
    (known : v.id = some id) (first : v.request.headers.first? .requestId = some id)
    (s : ServiceState) : identified ids v s = (v, s) := by
  unfold identified
  rw [first]
  dsimp only
  rw [known, Option.getD_some, ← known]

theorem identified_of_own {q : Request} {ids : Nat → RequestId} {st : ServiceState} {v : Visit}
    {s : ServiceState} (unknown : v.id = none)
    (first : v.request.headers.first? .requestId = q.headers.first? .requestId)
    (issued : s.issued = st.issued) :
    (identified ids v s).1.id = some (q.idFrom ids st) ∧
      (identified ids v s).1.request.headers.first? .requestId = some (q.idFrom ids st) := by
  unfold identified Request.idFrom
  rw [first, ← issued]
  cases brought : q.headers.first? .requestId with
  | some id =>
      dsimp only
      rw [unknown, first, brought]
      exact ⟨rfl, rfl⟩
  | none =>
      dsimp only
      rw [brought] at first
      exact ⟨rfl, HeaderMap.first?_append_of_none first _⟩

/-- By induction on the layers, from the outermost in. -/
theorem through_knowsId (q : Request) (st : ServiceState) {layers : List Layer}
    {x : Visit × ServiceState} (passed : through env layers (.ofRequest q) st = .ok x) :
    KnowsId q env.ids st layers x.1 x.2 := by
  refine through_induction (motive := KnowsId q env.ids st) ?_ ?_ passed
  · exact ⟨fun impossible => absurd impossible List.not_mem_nil, fun _ => ⟨rfl, rfl, rfl⟩⟩
  · intro layer outer x y known handed
    by_cases giving : layer = .assignId
    · subst giving
      cases handed
      refine ⟨fun _ => ?_, fun absent => absurd List.mem_cons_self absent⟩
      by_cases before : .assignId ∈ outer
      · obtain ⟨id, first⟩ := known.given before
        rw [identified_of_given env.ids id first]
        exact ⟨id, first⟩
      · obtain ⟨unknown, first, issued⟩ := known.own before
        exact identified_of_own unknown first issued
    · obtain ⟨id, request, issued⟩ := handOn_of_ne giving handed
      have same : Layer.assignId ∈ layer :: outer ↔ .assignId ∈ outer := by
        simp [Ne.symm giving]
      constructor
      · rw [same, id, request]
        exact known.given
      · rw [same, id, request, issued]
        exact known.own

theorem through_request {q : Request} {st : ServiceState} {layers : List Layer}
    {x : Visit × ServiceState} (passed : through env layers (.ofRequest q) st = .ok x) :
    x.1.request.method = q.method ∧ x.1.request.target = q.target := by
  refine through_induction
    (motive := fun _ v _ => v.request.method = q.method ∧ v.request.target = q.target)
    ⟨rfl, rfl⟩ ?_ passed
  intro layer outer x y same handed
  obtain ⟨method, target⟩ := handOn_request handed
  exact ⟨method.trans same.1, target.trans same.2⟩

end Layer

/-- What is read as the id of a request behind some layers: the id if one of them gives out ids
and it is visible text, and `unknown` otherwise.  An id may be this word. -/
structure ReadsId (layers : List Layer) (id : HeaderValue) (text : Text) : Prop where
  known : .assignId ∈ layers → ∀ shown, id.visible? = some shown → text = shown
  unknown : text = "unknown".toList ↔
    .assignId ∉ layers ∨ id.visible? = none ∨ id.visible? = some "unknown".toList

theorem Layer.KnowsId.readsId {q : Request} {ids : Nat → RequestId} {st : ServiceState}
    {layers : List Layer} {v : Visit} {s : ServiceState} (known : KnowsId q ids st layers v s) :
    ReadsId layers (q.idFrom ids st) v.idText := by
  unfold Visit.idText
  by_cases given : .assignId ∈ layers
  · rw [(known.given given).1, Option.bind_some]
    constructor
    · intro _ shown visible
      rw [visible, Option.getD_some]
    · cases (q.idFrom ids st).visible? with
      | none => simp
      | some shown => simp [given]
  · rw [(known.own given).1, Option.bind_none, Option.getD_none]
    exact ⟨fun impossible => absurd impossible given, by simp [given]⟩

/-! ## On the way out -/

namespace Layer

variable {env : Environment}

/-- A layer that answers by itself shows no id and reports nothing. -/
theorem own_of_handOn {layer : Layer} {v : Visit} {s : ServiceState} {o : Outcome}
    (refused : layer.handOn env v s = .error o) : o.ids = [] ∧ o.reports = [] := by
  unfold Outcome.ids Outcome.reports
  rcases handOn_error_cases refused with ⟨_, response, events⟩ | ⟨_, response, events⟩
  · rw [response, events]
    exact ⟨rfl, rfl⟩
  · rw [response, events]
    exact ⟨rfl, rfl⟩

theorem clear_ids {layer : Layer} (other : layer ≠ .propagateId) :
    layer.Clear env Outcome.ids := by
  refine ⟨fun v o => ?_, fun v s o refused => (own_of_handOn refused).1⟩
  cases layer with
  | propagateId => exact absurd rfl other
  | rateLimit => rfl
  | clientAddress => rfl
  | timeout => rfl
  | trace => rfl
  | assignId => rfl

theorem clear_reports {layer : Layer} (other : layer ≠ .clientAddress) :
    layer.Clear env Outcome.reports := by
  refine ⟨fun v o => ?_, fun v s o refused => (own_of_handOn refused).2⟩
  cases layer with
  | clientAddress => exact absurd rfl other
  | propagateId =>
      rw [handBack]
      split <;> rfl
  | trace => exact List.filter_cons_of_neg (by simp [requestSpan])
  | rateLimit => rfl
  | timeout => rfl
  | assignId => rfl

end Layer

/-- A resolver reports no answers. -/
theorem Resolver.filter_resolve (r : Resolver) (headers : HeaderMap) (peer : Text) :
    (r.resolve headers peer).2.filter (fun event => event.text = "Request completed") = [] := by
  refine List.filter_eq_nil_iff.mpr fun event mem => ?_
  rcases said_of_mem_resolve mem with said | said
  · rw [said.text]
    decide
  · rw [said.text]
    decide

/-- The report of a resolver around a service that reports nothing. -/
theorem Layer.reports_resolving {env : Environment} {inner : Service}
    (silent : ∀ v s, (inner v s).reports = []) (v : Visit) (s : ServiceState) :
    (Layer.around env .clientAddress inner v s).reports =
      [requestCompleted (resolved env.resolver v) (env.resolver.client v.request)
        (inner (resolved env.resolver v) (resolvedState env.resolver v s)).response.status] := by
  rw [around_eq]
  unfold Outcome.reports at silent ⊢
  unfold handOn handBack
  dsimp only
  rw [List.filter_append, List.filter_append, silent, Resolver.filter_resolve]
  rfl

/-! ## Applications -/

namespace Application

open Layer

section Handle

variable {app : Application} (plain : app.routes.Plain)

include plain

/-- Layers that do not echo ids show none around the resources. -/
theorem ids_inside_of_no_echo {layers : List Layer} (silent : .propagateId ∉ layers) (v : Visit)
    (s : ServiceState) :
    (Service.inside app.environment layers app.routes.service v s).ids = [] := by
  have clear : ∀ layer ∈ layers, layer.Clear app.environment Outcome.ids := fun layer mem =>
    clear_ids fun echo => silent (echo ▸ mem)
  rw [view_inside clear]
  split
  · rfl
  · exact (plain _).ids

/-- An answer shows the id that the echo has seen, if it has seen the request. -/
theorem handle_ids {inner outer : List Layer} (stack : app.layers = inner ++ .propagateId :: outer)
    (inside : .propagateId ∉ inner) (outside : .propagateId ∉ outer) (q : Request)
    (st : ServiceState) :
    (app.handle q st).ids =
      match through app.environment outer (.ofRequest q) st with
      | .error _ => []
      | .ok x => (x.1.request.headers.first? .requestId).toList := by
  have clear : ∀ layer ∈ outer, layer.Clear app.environment Outcome.ids := fun layer mem =>
    clear_ids fun echo => outside (echo ▸ mem)
  have split : (app.handle q st).ids = (Service.inside app.environment outer
      (propagating (Service.inside app.environment inner app.routes.service))
      (.ofRequest q) st).ids := by
    unfold handle Outcome.ids
    dsimp only
    rw [Routes.completed_ids, stack, inside_append]
    rfl
  rw [split, view_inside clear]
  cases through app.environment outer (.ofRequest q) st with
  | error o => rfl
  | ok x =>
      have silent := ids_inside_of_no_echo plain inside x.1 x.2
      unfold Outcome.ids at silent ⊢
      unfold propagating
      dsimp only
      cases x.1.request.headers.first? .requestId with
      | none => exact silent
      | some id => exact HeaderMap.all_addMissing_of_nil silent id

end Handle

/-- The resolver's report is the only one, and it shows the id that the resolver has seen. -/
theorem handle_reports {app : Application} {inner outer : List Layer}
    (stack : app.layers = inner ++ .clientAddress :: outer) (inside : .clientAddress ∉ inner)
    (outside : .clientAddress ∉ outer) (q : Request) (st : ServiceState) :
    match through app.environment outer (.ofRequest q) st with
    | .error _ => (app.handle q st).reports = []
    | .ok x => ∃ client status,
        (app.handle q st).reports = [requestCompleted x.1 client status] := by
  have clear : ∀ layers : List Layer, .clientAddress ∉ layers →
      ∀ layer ∈ layers, layer.Clear app.environment Outcome.reports := fun _ absent layer mem =>
    clear_reports fun resolver => absent (resolver ▸ mem)
  have split : (app.handle q st).reports = (Service.inside app.environment outer
      (Layer.around app.environment .clientAddress
        (Service.inside app.environment inner app.routes.service)) (.ofRequest q) st).reports := by
    unfold handle Outcome.reports
    dsimp only
    rw [stack, inside_append]
    rfl
  rw [split, view_inside (clear outer outside)]
  cases through app.environment outer (.ofRequest q) st with
  | error o => rfl
  | ok x =>
      have silent : ∀ v s, (Service.inside app.environment inner app.routes.service v s).reports =
          [] := by
        intro v s
        rw [view_inside (clear inner inside)]
        split <;> rfl
      exact ⟨_, _, reports_resolving silent x.1 x.2⟩

end Application

/-! ## Stacks in any order -/

namespace Layer

/-- In a stack, written from the inside out, one layer stands further out than another. -/
def LiesOutside (layers : List Layer) (layer other : Layer) : Prop :=
  ∃ inner outer, layers = inner ++ other :: outer ∧ layer ∈ outer

theorem liesOutside_iff {inner outer : List Layer} {other : Layer}
    (single : (inner ++ other :: outer).Nodup) (layer : Layer) :
    LiesOutside (inner ++ other :: outer) layer other ↔ layer ∈ outer := by
  obtain ⟨inside, outside⟩ := not_mem_of_nodup single
  constructor
  · rintro ⟨inner', outer', split, mem⟩
    obtain ⟨_, _, rfl⟩ := (List.append_cons_inj_of_notMem inside outside).mp split
    exact mem
  · intro mem
    exact ⟨inner, outer, rfl, mem⟩

end Layer

namespace Application

open Layer

/-- Layers around the resources that show what the layers found out. -/
theorem ofLayers_eq_ok {layers : List Layer} {s : Settings} {ids : Nat → RequestId}
    {app : Application} (made : ofLayers layers s ids = .ok app) :
    ∃ r, app = ⟨⟨r, s.timeouts.requestSecs.toNat, ids⟩, layers, .probe⟩ := by
  unfold ofLayers at made
  cases resolver : resolverFor layers s.resolution with
  | error e =>
      rw [resolver] at made
      cases made
  | ok r =>
      rw [resolver] at made
      exact ⟨r, (Except.ok.inj made).symm⟩

section Stack

variable {app : Application} (plain : app.routes.Plain) (single : app.layers.Nodup)
variable (untimed : .timeout ∉ app.layers) (q : Request) (st : ServiceState)

include plain single untimed

/-- Without a time limit only the rate limit keeps a request from what stands inside. -/
theorem refused_iff_limited {near outer : List Layer} (stack : app.layers = near ++ outer) :
    (∃ o, through app.environment outer (.ofRequest q) st = .error o) ↔
      .rateLimit ∈ outer ∧ (app.handle q st).response.status = .tooManyRequests := by
  rw [refused_iff plain stack single]
  constructor
  · rintro ⟨layer, mem, refused⟩
    cases layer with
    | rateLimit => exact ⟨mem, (Option.some.inj refused).symm⟩
    | timeout => exact absurd (stack ▸ List.mem_append_right near mem) untimed
    | clientAddress => cases refused
    | trace => cases refused
    | propagateId => cases refused
    | assignId => cases refused
  · rintro ⟨mem, status⟩
    exact ⟨.rateLimit, mem, congrArg some status.symm⟩

/-- An answer shows the id of the request or none, and it shows it exactly if the echo has seen the
request and the request had its id by then. -/
theorem ids_of_echo {inner outer : List Layer}
    (stack : app.layers = inner ++ .propagateId :: outer) :
    ((app.handle q st).ids = [] ∨ (app.handle q st).ids = [q.idFrom app.environment.ids st]) ∧
      ((app.handle q st).ids ≠ [] ↔
        (q.headers.has .requestId = true ∨ .assignId ∈ outer) ∧
        ¬ (.rateLimit ∈ outer ∧ (app.handle q st).response.status = .tooManyRequests)) := by
  obtain ⟨inside, outside⟩ := not_mem_of_nodup (stack ▸ single)
  have refused := refused_iff_limited plain single untimed q st
    (stack.trans (List.append_cons inner .propagateId outer))
  rw [handle_ids plain stack inside outside, ← refused]
  cases passed : through app.environment outer (.ofRequest q) st with
  | error o => simp
  | ok x =>
      have known := through_knowsId q st passed
      dsimp only
      -- the echo sees the id that was given outside of it, or what the request brought itself
      by_cases given : .assignId ∈ outer
      · rw [(known.given given).2]
        simp [given]
      · rw [(known.own given).2.1]
        unfold Request.idFrom HeaderMap.has
        cases q.headers.first? .requestId <;> simp [given]

/-- The same without a look at where the layers stand. -/
theorem ids_of_stack :
    ((app.handle q st).ids = [] ∨ (app.handle q st).ids = [q.idFrom app.environment.ids st]) ∧
      ((app.handle q st).ids ≠ [] ↔
        .propagateId ∈ app.layers ∧
        (q.headers.has .requestId = true ∨ LiesOutside app.layers .assignId .propagateId) ∧
        ¬ (LiesOutside app.layers .rateLimit .propagateId ∧
          (app.handle q st).response.status = .tooManyRequests)) := by
  by_cases echoed : .propagateId ∈ app.layers
  · obtain ⟨inner, outer, stack⟩ := List.append_of_mem echoed
    have outside := liesOutside_iff (stack ▸ single)
    rw [← stack] at outside
    obtain ⟨shown, present⟩ := ids_of_echo plain single untimed q st stack
    refine ⟨shown, ?_⟩
    rw [outside, outside, present]
    exact (and_iff_right echoed).symm
  · have silent : (app.handle q st).ids = [] := by
      unfold Outcome.ids handle
      dsimp only
      rw [Routes.completed_ids]
      exact ids_inside_of_no_echo plain echoed _ _
    exact ⟨.inl silent, fun shown => absurd silent shown, fun present => absurd present.1 echoed⟩

/-- Who asks for the id of a request is refused, or is told what stands behind all layers. -/
theorem body_of_stack (probed : app.routes = .probe) (asked : q.method = .get)
    (path : q.target.path = "/id".toList) :
    (app.handle q st).response.status = .tooManyRequests ∨
      (app.handle q st).response.status = .ok ∧
        ReadsId app.layers (q.idFrom app.environment.ids st) (app.handle q st).response.body := by
  have refused := refused_iff_limited plain single untimed q st (List.nil_append app.layers).symm
  have within := inside_answer app.environment app.layers app.routes.service (.ofRequest q) st
  have completed : (app.handle q st).response.status = (Service.inside app.environment app.layers
        app.routes.service (.ofRequest q) st).response.status ∧
      (app.handle q st).response.body = (Service.inside app.environment app.layers
        app.routes.service (.ofRequest q) st).response.body :=
    ⟨Routes.completed_status _ q _, Routes.completed_body _ (by rw [asked]; decide) _⟩
  cases passed : through app.environment app.layers (.ofRequest q) st with
  | error o => exact .inl (refused.mp ⟨o, passed⟩).2
  | ok x =>
      obtain ⟨method, target⟩ := through_request passed
      rw [passed] at within
      have answered : app.routes.respond x.1 = .plain .ok x.1.idText := by
        unfold Routes.respond
        rw [probed, method, target, asked, path]
        rfl
      have seen : app.routes.service x.1 x.2 = ⟨.plain .ok x.1.idText, [], x.2⟩ :=
        congrArg (Outcome.mk · [] x.2) answered
      rw [completed.1, completed.2, within.1, within.2, seen]
      exact .inr ⟨rfl, (through_knowsId q st passed).readsId⟩

/-- A resolver reports the id as it stands behind the layers around it, unless the request does not
get there. -/
theorem reports_of_stack {inner outer : List Layer}
    (stack : app.layers = inner ++ .clientAddress :: outer) :
    ((app.handle q st).reports = [] ∧ .rateLimit ∈ outer ∧
        (app.handle q st).response.status = .tooManyRequests) ∨
      ∃ report text, (app.handle q st).reports = [report] ∧
        report.fields.lookup "request_id" = some (.shown (String.ofList text)) ∧
        ReadsId outer (q.idFrom app.environment.ids st) text := by
  obtain ⟨inside, outside⟩ := not_mem_of_nodup (stack ▸ single)
  have refused := refused_iff_limited plain single untimed q st
    (stack.trans (List.append_cons inner .clientAddress outer))
  have reported := handle_reports stack inside outside q st
  cases passed : through app.environment outer (.ofRequest q) st with
  | error o =>
      rw [passed] at reported
      exact .inl ⟨reported, refused.mp ⟨o, passed⟩⟩
  | ok x =>
      rw [passed] at reported
      obtain ⟨client, status, report⟩ := reported
      exact .inr ⟨_, x.1.idText, report, rfl, (through_knowsId q st passed).readsId⟩

end Stack

end Application

/-! ## The server -/

namespace Server

/-- All answers of the server show the id of the request, whoever gives them. -/
theorem handle_ids (s : Settings) (ids : Nat → RequestId) (r : Resolver) (q : Request)
    (st : ServiceState) :
    ((assembled s ids r).application.handle q st).ids = [q.idFrom ids st] := by
  have stack : (assembled s ids r).application.layers =
      ((if s.limit.enabled then [.rateLimit] else []) ++ [.clientAddress, .timeout, .trace]) ++
        .propagateId :: [.assignId] := by
    rw [List.append_assoc]
    rfl
  have inside : .propagateId ∉ (if s.limit.enabled then [Layer.rateLimit] else []) ++
      [.clientAddress, .timeout, .trace] := by
    split <;> decide
  have given : (Layer.identified ids (.ofRequest q) st).1.request.headers.first? .requestId =
      some (q.idFrom ids st) := (Layer.identified_of_own rfl rfl rfl).2
  rw [Application.handle_ids Routes.plain_server stack inside (by decide)]
  exact congrArg Option.toList given

end Server

/-- **Request ids.**  Whatever the order of the layers, an answer shows at most one id, the first
that the request brought along or else the next one to be given out.  It shows it exactly if there
is an echo, the request brought an id or gets one outside the echo, and the answer is not the
refusal of a rate limit outside the echo.  Resources and reports read the same id, and `unknown`
where none has been given out outside of them or it is no visible text; an id may also be that word
itself.  All answers of the server show the id. -/
theorem handle_requestId :
    (∀ (layers : List Layer) (s : Settings) (ids : Nat → RequestId) (app : Application),
      Application.ofLayers layers s ids = .ok app → layers.Nodup →
      (∀ layer ∈ layers, layer ∈ [.rateLimit, .clientAddress, .propagateId, .assignId]) →
      ∀ (q : Request) (st : ServiceState),
        let o := app.handle q st
        let id := q.idFrom ids st
        (o.ids = [] ∨ o.ids = [id]) ∧
        (o.ids ≠ [] ↔
          .propagateId ∈ layers ∧
          (q.headers.has .requestId = true ∨ Layer.LiesOutside layers .assignId .propagateId) ∧
          ¬ (Layer.LiesOutside layers .rateLimit .propagateId ∧
            o.response.status = .tooManyRequests)) ∧
        (q.method = .get → q.target.path = "/id".toList →
          o.response.status = .tooManyRequests ∨
            o.response.status = .ok ∧ ReadsId layers id o.response.body) ∧
        ∀ inner outer, layers = inner ++ .clientAddress :: outer →
          (o.reports = [] ∧ .rateLimit ∈ outer ∧ o.response.status = .tooManyRequests) ∨
            ∃ report text, o.reports = [report] ∧
              report.fields.lookup "request_id" = some (.shown (String.ofList text)) ∧
              ReadsId outer id text) ∧
    ∀ (s : Settings) (ids : Nat → RequestId) (server : Server),
      Server.ofSettings s ids = .ok server →
      ∀ (q : Request) (st : ServiceState),
        (server.application.handle q st).ids = [q.idFrom ids st] := by
  constructor
  · intro layers s ids app made single known q st o id
    obtain ⟨r, rfl⟩ := Application.ofLayers_eq_ok made
    let app : Application := ⟨⟨r, s.timeouts.requestSecs.toNat, ids⟩, layers, .probe⟩
    have plain : app.routes.Plain := Routes.plain_probe
    have untimed : .timeout ∉ app.layers := fun timed => absurd (known _ timed) (by decide)
    obtain ⟨shown, present⟩ := app.ids_of_stack plain single untimed q st
    exact ⟨shown, present, app.body_of_stack plain single untimed q st rfl,
      fun _ _ => app.reports_of_stack plain single untimed q st⟩
  · intro s ids server accepted q st
    obtain ⟨r, _, rfl⟩ := (Server.ofSettings_eq_ok_iff s ids server).mp accepted
    exact Server.handle_ids s ids r q st

/-- A stack with its rate limit around the echo, and one client that asks twice: the refusal shows
no id, although the request has one. -/
theorem handle_requestId_refused :
    let layers : List Layer := [.clientAddress, .propagateId, .rateLimit, .assignId]
    let ids : Nat → RequestId := fun _ => ⟨.ofNat 17, by decide, by decide +kernel⟩
    let q : Request := ⟨.get, ⟨"/id".toList, none⟩, .empty, none⟩
    ∃ app, Application.ofLayers layers Server.onePerSecond ids = .ok app ∧ layers.Nodup ∧
      (∀ layer ∈ layers, layer ∈ [.rateLimit, .clientAddress, .propagateId, .assignId]) ∧
      let start := ServiceState.start (.ofSettings Server.onePerSecond.limit)
      let first := app.handle q start
      first.ids = [.ofNat 17] ∧ first.response.body = "17".toList ∧
        (app.handle q first.state).ids = [] := by
  intro layers ids q
  let r : Resolver := ⟨true, some ⟨"x-real-ip".toList, by decide, by decide⟩, .empty⟩
  let app : Application :=
    ⟨⟨r, Server.onePerSecond.timeouts.requestSecs.toNat, ids⟩, layers, .probe⟩
  have made : Application.resolverFor layers Server.onePerSecond.resolution = .ok r := by
    decide +kernel
  have built : Application.ofLayers layers Server.onePerSecond ids = .ok app := by
    unfold Application.ofLayers
    rw [made]
    rfl
  have single : layers.Nodup := by decide
  have known : ∀ layer ∈ layers,
      layer ∈ [.rateLimit, .clientAddress, .propagateId, .assignId] := by decide
  refine ⟨app, built, single, known, ?_⟩
  intro start first
  have stated := handle_requestId.1 layers Server.onePerSecond ids app built single known q
  obtain ⟨shown, present, read, _⟩ := stated start
  obtain ⟨_, presentLater, _⟩ := stated first.state
  have outside : ∀ layer ∈ [.rateLimit, .assignId], Layer.LiesOutside layers layer .propagateId :=
    fun _ mem => ⟨[.clientAddress], [.rateLimit, .assignId], rfl, mem⟩
  have granted : first.response.status ≠ .tooManyRequests := by decide +kernel
  have refused : (app.handle q first.state).response.status = .tooManyRequests := by
    decide +kernel
  refine ⟨?_, ?_, ?_⟩
  · exact shown.resolve_left
      (present.mpr ⟨by decide, .inr (outside _ (by decide)), fun late => granted late.2⟩)
  · obtain ⟨_, text⟩ := (read rfl rfl).resolve_left granted
    exact text.known (by decide) "17".toList (by decide +kernel)
  · by_contra shown
    exact (presentLater.mp shown).2.2 ⟨outside _ (by decide), refused⟩

end ClientOrigin
