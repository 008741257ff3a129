import ClientOrigin.Proofs.Resolve.Chain
import ClientOrigin.Proofs.Service.Blind
import ClientOrigin.Proofs.Service.Record
import Mathlib.Data.List.Forall2

/-!
# Headers that do not interfere

Two runs of a server ask for the same things from the same peers at the same times, and differ in
headers that the settings do not let the resolver look at.  Nobody who sees where the requests
come from, which of them are over the limit, the statuses and the counters can tell the runs
apart (`run_noninterference`).

* **ids** — the resolver may be set to look at the header that ids stand in.  It finds no address
  in an id that the server has given out, and says so in words that show the id
  (`Resolver.resolve_given`), so that two runs may show two ids (`resolverEvents_differ`);
* **steps** — `run_related` is the induction over two runs, `step_alike` the step lemma and
  `run_alike` the run lemma.
-/

namespace ClientOrigin

open Text

/-! ## Ids that the resolver looks at -/

namespace Resolver

/-- What is wrong with an id as the value of the header that an address is looked for in. -/
def idError (id : RequestId) : ResolveError :=
  let value := trim id.value.lossy
  if value = [] then .headerMissing .requestId else .noCandidate .requestId value

/-- The same in words. -/
def idMessage (id : RequestId) : String :=
  let value := trim id.value.lossy
  if value = [] then "no x-request-id header found"
  else "no parseable address in x-request-id header: " ++ String.ofList value

/-- The report on a request whose address has been looked for in an id. -/
def idReport (id : RequestId) (peer : Text) : List LogEvent :=
  report .debug headerMessage (idMessage id) peer :: (resolvePeer peer).2

theorem headerFailed_idError (id : RequestId) (peer : Text) :
    headerFailed (idError id) peer = report .debug headerMessage (idMessage id) peer := by
  unfold headerFailed report idError idMessage
  dsimp only
  split
  · rfl
  · rfl

/-- The id of a request without one of its own is all that stands in the header of ids. -/
theorem resolve_given {r : Resolver} (active : r.activeHeader? = some .requestId)
    {headers : HeaderMap} (none : headers.all .requestId = []) (id : RequestId) (peer : Text) :
    (r.resolve (headers.append .requestId id.value) peer).2 = idReport id peer := by
  have value : headerText .requestId (headers.append .requestId id.value) =
      trim id.value.lossy := by
    unfold headerText
    rw [HeaderMap.all_append_self, none]
    rfl
  have failed : r.fromHeader .requestId (headers.append .requestId id.value) =
      .error (idError id) := by
    unfold fromHeader idError
    dsimp only
    rw [value, Forwarded.candidates_trim, id.namesNoAddress]
    split
    · rfl
    · rfl
  unfold resolve
  rw [active]
  dsimp only
  rw [failed]
  exact congrArg (· :: (resolvePeer peer).2) (headerFailed_idError id peer)

/-- All that a resolver logs is its own. -/
theorem filter_target_resolve (r : Resolver) (headers : HeaderMap) (peer : Text) :
    (r.resolve headers peer).2.filter (fun event => event.target = target) =
      (r.resolve headers peer).2 := by
  have peerEvents : ∀ event ∈ (resolvePeer peer).2, event.target = target := by
    unfold resolvePeer
    split <;> simp [peerFailed]
  rw [List.filter_eq_self]
  intro event mem
  rw [decide_eq_true_eq]
  rcases r.resolve_cases headers peer with
    ⟨_, _, _, _, given⟩ | ⟨_, direct⟩ | ⟨_, _, _, _, fallen⟩
  · rw [given] at mem
    cases mem
  · rw [direct] at mem
    exact peerEvents event mem
  · rw [fallen] at mem
    rcases List.mem_cons.mp mem with rfl | later
    · rfl
    · exact peerEvents event later

end Resolver

/-! ## Exchanges -/

namespace Exchange

/-- Two servers that give out ids say the same about two requests, or else the requests have no ids
of their own, the resolver looks for an address in ids, and each of the servers reports the id that
it has given out. -/
inductive SameReport (r : Resolver) (ids ids' : Nat → RequestId) (e e' : Exchange) : Prop
  | same (events : e'.resolverEvents = e.resolverEvents) (report : e'.report = e.report)
  | given (n : Nat) (active : r.activeHeader? = some .requestId)
      (none : e.request.headers.all .requestId = []) (differ : (ids' n).value ≠ (ids n).value)
      (events : e.resolverEvents = Resolver.idReport (ids n) e.request.peerText)
      (events' : e'.resolverEvents = Resolver.idReport (ids' n) e.request.peerText)

theorem SameReport.of_report {r : Resolver} {ids ids' : Nat → RequestId} {e e' : Exchange}
    (report : e'.report = e.report) : SameReport r ids ids' e e' := by
  refine .same ?_ report
  unfold Exchange.report at report
  unfold resolverEvents
  rw [← LogEvent.filter_withoutId, report, LogEvent.filter_withoutId]

/-- Two exchanges that nobody can tell apart who sees the client, the status and the log, but for
ids. -/
structure Alike (r : Resolver) (ids ids' : Nat → RequestId) (e e' : Exchange) : Prop where
  client : r.client e'.request = r.client e.request
  status : e'.response.status = e.response.status
  attribution : e'.attribution = e.attribution
  report : SameReport r ids ids' e e'

variable {r : Resolver} {ids ids' : Nat → RequestId}

theorem Alike.limited {e e' : Exchange} (alike : e.Alike r ids ids' e') :
    e'.limited = e.limited := by
  unfold Exchange.limited
  rw [alike.status]

/-- What two alike exchanges have in common, lists of alike exchanges have in common. -/
theorem map_congr {was now : List Exchange} (alike : List.Forall₂ (Alike r ids ids') was now)
    {β : Type} (view : Exchange → β) (same : ∀ e e', e.Alike r ids ids' e' → view e' = view e) :
    now.map view = was.map view := by
  induction alike with
  | nil => rfl
  | cons here _ ih => rw [List.map_cons, List.map_cons, same _ _ here, ih]

end Exchange

/-! ## Runs of the server -/

namespace Application

/-- Two steps of one kind: the same time passes, or related requests arrive. -/
inductive Step.Related (R : Request → Request → Prop) : Step → Step → Prop
  | request {q q' : Request} (requests : R q q') : Related R (.request q) (.request q')
  | advance (nanos : Nat) : Related R (.advance nanos) (.advance nanos)

theorem Step.Related.imp {R S : Request → Request → Prop} (weaker : ∀ q q', R q q' → S q q')
    {step step' : Step} (related : step.Related R step') : step.Related S step' := by
  cases related with
  | request requests => exact .request (weaker _ _ requests)
  | advance nanos => exact .advance nanos

/-- What related steps have in common in related states, related runs have in common: by induction
on the steps, with the relation of the states as the invariant. -/
theorem run_related {app app' : Application} {S : ServiceState → ServiceState → Prop}
    {R : Step → Step → Prop} {E : Exchange → Exchange → Prop}
    (step : ∀ {st st' next next'}, S st st' → R next next' →
      List.Forall₂ E (app.step st next).1.toList (app'.step st' next').1.toList ∧
        S (app.step st next).2 (app'.step st' next').2)
    {st st' : ServiceState} (states : S st st') {steps steps' : List Step}
    (related : List.Forall₂ R steps steps') :
    List.Forall₂ E (app.run st steps).1 (app'.run st' steps').1 ∧
      S (app.run st steps).2 (app'.run st' steps').2 := by
  induction related generalizing st st' with
  | nil => exact ⟨.nil, states⟩
  | cons next _ ih =>
      obtain ⟨here, after⟩ := step states next
      obtain ⟨later, final⟩ := ih after
      rw [run_cons, run_cons]
      exact ⟨List.rel_append here later, final⟩

end Application

namespace Server

open Application (Step)

section Runs

variable (s : Settings) (r : Resolver) {ids ids' : Nat → RequestId}

theorem core_blind (logged : Prop) : (core s r).Blind r logged := by
  unfold core
  refine Layer.timing_blind _ (Layer.resolving_blind ?_)
  cases s.limit.enabled with
  | false =>
      rw [if_neg Bool.false_ne_true]
      exact Routes.service_blind r logged
  | true =>
      rw [if_pos rfl]
      exact Layer.limiting_blind (Routes.service_blind r logged)

/-- Of what is logged about a request that has time, the resolver says what it says about the
request with its id. -/
theorem handle_resolverEvents (time : 0 < s.timeouts.requestSecs.toNat) (q : Request)
    (st : ServiceState) :
    ((assembled s ids r).application.handle q st).events.filter
        (fun event => event.target = Resolver.target) =
      (r.resolve (entry ids q st).1.request.headers q.peerText).2 := by
  have others : ∀ client status, (Layer.limitEvents client status).filter
      (fun event => event.target = Resolver.target) = [] := by
    intro client status
    unfold Layer.limitEvents
    split <;> rfl
  have peer : (entry ids q st).1.request.peerText = q.peerText :=
    Layer.identified_peerText ids (.ofRequest q) st
  rw [(handle_record s ids r q st time).1,
    List.filter_cons_of_neg (by simp [Layer.requestSpan, Resolver.target]), List.filter_append,
    List.filter_append, others, List.append_nil, Resolver.filter_target_resolve, peer]
  exact List.append_nil _

/-- A request that is given an id leaves the report on this id, if the resolver looks at ids. -/
theorem handle_given (time : 0 < s.timeouts.requestSecs.toNat)
    (active : r.activeHeader? = some .requestId) {q : Request}
    (none : q.headers.all .requestId = []) (st : ServiceState) :
    ((assembled s ids r).application.handle q st).events.filter
        (fun event => event.target = Resolver.target) =
      Resolver.idReport (ids st.issued) q.peerText := by
  have first : q.headers.first? .requestId = .none := List.head?_eq_none_iff.mpr none
  have headers : (entry ids q st).1.request.headers =
      q.headers.append .requestId (ids st.issued).value := by
    unfold entry Layer.identified Visit.ofRequest
    dsimp only
    rw [first]
  rw [handle_resolverEvents s r time, headers, Resolver.resolve_given active none]

/-- Without time nothing but the span is logged. -/
theorem report_of_no_time (none : s.timeouts.requestSecs.toNat = 0) {q q' : Request}
    (method : q'.method = q.method) (target : q'.target = q.target) (st st' : ServiceState) :
    ((assembled s ids' r).application.handle q' st').events.map LogEvent.withoutId =
      ((assembled s ids r).application.handle q st).events.map LogEvent.withoutId := by
  rw [handle_events, handle_events, coreOutcome_of_no_time s ids r q st none,
    coreOutcome_of_no_time s ids' r q' st' none]
  refine congrArg (· :: []) (Layer.requestSpan_congr ?_ ?_)
  · unfold entry
    rw [Layer.identified_method, Layer.identified_method]
    exact method
  · unfold entry
    rw [Layer.identified_target, Layer.identified_target]
    exact target

section Handle

variable {st st' : ServiceState} (states : st.Alike r st') {q q' : Request}
  (requests : q.Alike r q')

include states requests

/-- Alike requests are handled alike. -/
theorem handle_alike {logged : Prop}
    (same : logged → r.activeHeader? = some .requestId → q.headers.all .requestId = [] →
      (ids' st.issued).value = (ids st.issued).value) :
    Outcome.Alike r logged ((assembled s ids r).application.handle q st)
      ((assembled s ids' r).application.handle q' st') := by
  obtain ⟨visits, entered⟩ := Layer.identified_alike requests states same
  have handled := Layer.propagating_blind (Layer.tracing_blind (core_blind s r logged)) _ _ _ _
    visits entered
  unfold Application.handle assembled
  dsimp only
  rw [inside_layers, inside_layers, Layer.assigning_eq, Layer.assigning_eq]
  constructor
  · rw [Routes.completed_status, Routes.completed_status]
    exact handled.status
  · exact handled.attribution
  · exact handled.log
  · exact handled.state

theorem handle_sameReport :
    let o := (assembled s ids r).application.handle q st
    let o' := (assembled s ids' r).application.handle q' st'
    Exchange.SameReport r ids ids' ⟨q, o.response, o.events⟩ ⟨q', o'.response, o'.events⟩ := by
  intro o o'
  -- only two different ids that the resolver looks at get into what it reports
  by_cases given : r.activeHeader? = some .requestId ∧ q.headers.all .requestId = [] ∧
      (ids' st.issued).value ≠ (ids st.issued).value
  · obtain ⟨active, none, differ⟩ := given
    rcases Nat.eq_zero_or_pos s.timeouts.requestSecs.toNat with noTime | time
    · exact .of_report (report_of_no_time s r noTime requests.method requests.target st st')
    · have none' : q'.headers.all .requestId = [] := (requests.lines _ active).trans none
      refine .given st.issued active none differ (handle_given s r time active none st) ?_
      rw [← requests.peerText, ← states.issued active]
      exact handle_given s r time active none' st'
  · have handled : Outcome.Alike r True o o' := by
      refine handle_alike s r states requests fun _ active none => ?_
      exact not_not.mp fun differ => given ⟨active, none, differ⟩
    exact .of_report (handled.log trivial)

end Handle

variable {st st' : ServiceState}

theorem step_alike (states : st.Alike r st') {next next' : Step}
    (related : next.Related (Request.Alike r) next') :
    List.Forall₂ (Exchange.Alike r ids ids')
        ((assembled s ids r).application.step st next).1.toList
        ((assembled s ids' r).application.step st' next').1.toList ∧
      ((assembled s ids r).application.step st next).2.Alike r
        ((assembled s ids' r).application.step st' next').2 := by
  cases related with
  | advance nanos =>
      exact ⟨.nil, congrArg (· + nanos) states.now, states.limiter, states.metrics, states.issued⟩
  | @request q q' requests =>
      have handled : Outcome.Alike r False ((assembled s ids r).application.handle q st)
          ((assembled s ids' r).application.handle q' st') :=
        handle_alike s r states requests False.elim
      have report : Exchange.SameReport r ids ids' _ _ := handle_sameReport s r states requests
      exact ⟨.cons ⟨requests.client, handled.status, handled.attribution, report⟩ .nil,
        handled.state⟩

/-- The invariant is that the states are alike, whatever headers have passed before. -/
theorem run_alike (states : st.Alike r st') {steps steps' : List Step}
    (related : List.Forall₂ (Step.Related (Request.Alike r)) steps steps') :
    List.Forall₂ (Exchange.Alike r ids ids')
        ((assembled s ids r).application.run st steps).1
        ((assembled s ids' r).application.run st' steps').1 ∧
      ((assembled s ids r).application.run st steps).2.Alike r
        ((assembled s ids' r).application.run st' steps').2 :=
  Application.run_related (fun states next => step_alike s r states next) states related

end Runs

end Server

/-! ## The server of the settings -/

/-- Two requests that differ in headers only and, if the settings let the resolver look at one,
not in the lines of that one. -/
structure Request.SameFor (s : ResolutionSettings) (q q' : Request) : Prop where
  method : q'.method = q.method
  target : q'.target = q.target
  peer : q'.peer = q.peer
  lines : s.behindProxy = false ∨ trim s.forwardedHeader = [] ∨
    q'.headers.named (trim s.forwardedHeader) = q.headers.named (trim s.forwardedHeader)

/-- The header that the resolver of some settings looks at is the one that they name. -/
theorem Resolver.activeHeader?_of_ofSettings {s : ResolutionSettings} {r : Resolver}
    (made : ofSettings s = .ok r) {header : HeaderName} (active : r.activeHeader? = some header) :
    s.behindProxy = true ∧ HeaderName.ofText? (trim s.forwardedHeader) = some header := by
  unfold ofSettings HeaderName.ofSetting at made
  by_cases blank : trim s.forwardedHeader = []
  · rw [if_pos blank] at made
    obtain rfl := Except.ok.inj made
    simp [activeHeader?] at active
  · rw [if_neg blank] at made
    cases named : HeaderName.ofText? (trim s.forwardedHeader) with
    | none => simp [named, Except.map] at made
    | some name =>
        rw [named] at made
        obtain rfl := Except.ok.inj made
        simpa [activeHeader?] using active

theorem Request.SameFor.alike {s : ResolutionSettings} {r : Resolver}
    (made : Resolver.ofSettings s = .ok r) {q q' : Request} (same : q.SameFor s q') :
    q.Alike r q' := by
  refine ⟨same.method, same.target, same.peer, fun header active => ?_⟩
  obtain ⟨proxy, named⟩ := Resolver.activeHeader?_of_ofSettings made active
  rcases same.lines with direct | blank | lines
  · rw [direct] at proxy
    exact absurd proxy Bool.false_ne_true
  · have nameless : HeaderName.ofText? [] = none := by decide
    rw [blank, nameless] at named
    exact absurd named (by simp)
  · rw [HeaderMap.named_of_ofText? named, HeaderMap.named_of_ofText? named] at lines
    exact lines

namespace Server

open Application (Step)

/-- **Header noninterference.**  Let the steps of two runs differ only in headers that the
settings do not let the resolver look at.  Then their requests come from the same addresses and
sources, the log says the same about the clients, the same requests are over the limit, all
statuses are the same, and so are the counters in the end.  This is so even if the second run is
that of another server of the same settings, which gives out other ids.  The resolver also reports
the same about each request, unless it looks for addresses in ids and the request has been given
different ones; then the two reports differ in these ids alone. -/
theorem run_noninterference (s : Settings) (ids : Nat → RequestId) (server : Server)
    (accepted : ofSettings s ids = .ok server) (steps steps' : List Step)
    (same : List.Forall₂ (Step.Related (Request.SameFor s.resolution)) steps steps') :
    ∃ r, Resolver.ofSettings s.resolution = .ok r ∧
      ∀ ids' server', ofSettings s ids' = .ok server' →
        let was := server.exchanges steps
        let now := server'.exchanges steps'
        now.map (fun e => r.client e.request) = was.map (fun e => r.client e.request) ∧
        now.map Exchange.attribution = was.map Exchange.attribution ∧
        now.map Exchange.limited = was.map Exchange.limited ∧
        now.map (·.response.status) = was.map (·.response.status) ∧
        (server'.application.run server'.state steps').2.metrics =
          (server.application.run server.state steps).2.metrics ∧
        List.Forall₂ (Exchange.SameReport r ids ids') was now := by
  obtain ⟨r, made, rfl⟩ := (ofSettings_eq_ok_iff s ids server).mp accepted
  have related : List.Forall₂ (Step.Related (Request.Alike r)) steps steps' :=
    same.imp fun _ _ step => step.imp fun _ _ requests => requests.alike made
  refine ⟨r, made, fun ids' server' accepted' => ?_⟩
  obtain ⟨r', made', rfl⟩ := (ofSettings_eq_ok_iff s ids' server').mp accepted'
  obtain rfl : r = r' := Except.ok.inj (made.symm.trans made')
  have start : ServiceState.Alike r (.start (.ofSettings s.limit))
      (.start (.ofSettings s.limit)) := ⟨rfl, rfl, rfl, fun _ => rfl⟩
  obtain ⟨exchanges, states⟩ := run_alike s r start related
  refine ⟨?_, ?_, ?_, ?_, states.metrics, exchanges.imp fun _ _ alike => alike.report⟩
  · exact Exchange.map_congr exchanges _ fun _ _ alike => alike.client
  · exact Exchange.map_congr exchanges _ fun _ _ alike => alike.attribution
  · exact Exchange.map_congr exchanges _ fun _ _ alike => alike.limited
  · exact Exchange.map_congr exchanges _ fun _ _ alike => alike.status

/-- Settings that take the client from the header that ids stand in. -/
def resolvingIds : Settings :=
  { resolution := { behindProxy := true, forwardedHeader := " X-Request-ID ".toList }
    limit := { enabled := true, requestsPerSecond := 1, burst := 1 } }

theorem resolver_resolvingIds :
    Resolver.ofSettings resolvingIds.resolution = .ok ⟨true, some .requestId, .empty⟩ := by
  decide +kernel

theorem ofSettings_resolvingIds (ids : Nat → RequestId) :
    ofSettings resolvingIds ids =
      .ok (assembled resolvingIds ids ⟨true, some .requestId, .empty⟩) :=
  (ofSettings_eq_ok_iff resolvingIds ids _).mpr ⟨_, resolver_resolvingIds, rfl⟩

/-- Four requests with some lines of another header.  All but the second have an id, and it names
`1.2.3.4`. -/
def withLines (lines : List HeaderValue) : List Step :=
  let name : HeaderName := ⟨"forwarded".toList, by decide, by decide⟩
  let others := lines.map fun line => (name, line)
  let id : HeaderName × HeaderValue := (.requestId, ⟨utf8 "for=1.2.3.4".toList, by decide⟩)
  [.request ⟨.get, ⟨"/ip".toList, none⟩, ⟨others ++ [id]⟩, none⟩,
    .request ⟨.get, ⟨"/ip".toList, none⟩, ⟨others⟩, none⟩,
    .advance 999999999,
    .request ⟨.get, ⟨"/health".toList, none⟩, ⟨id :: others⟩, none⟩,
    .advance 1,
    .request ⟨.get, ⟨"/nowhere".toList, none⟩, ⟨id :: others⟩, none⟩]

/-- A line with another address, and a server that gives out another id: the second request still
has a bucket of its own, and the third one is still over the limit. -/
theorem run_noninterference_otherLine :
    ∃ server, ofSettings resolvingIds (fun _ => ⟨.ofNat 7, by decide, by decide +kernel⟩) =
        .ok server ∧
      (server.exchanges (withLines [⟨utf8 "6.6.6.6".toList, by decide⟩])).map
          (·.response.status) = [.ok, .ok, .tooManyRequests, .notFound] := by
  have same : List.Forall₂ (Step.Related (Request.SameFor resolvingIds.resolution))
      (withLines []) (withLines [⟨utf8 "6.6.6.6".toList, by decide⟩]) :=
    .cons (.request ⟨rfl, rfl, rfl, .inr (.inr (by decide +kernel))⟩)
      (.cons (.request ⟨rfl, rfl, rfl, .inr (.inr (by decide +kernel))⟩)
        (.cons (.advance 999999999)
          (.cons (.request ⟨rfl, rfl, rfl, .inr (.inr (by decide +kernel))⟩)
            (.cons (.advance 1)
              (.cons (.request ⟨rfl, rfl, rfl, .inr (.inr (by decide +kernel))⟩) .nil)))))
  obtain ⟨_, _, agree⟩ := run_noninterference resolvingIds
    (fun _ => ⟨.ofNat 0, by decide, by decide +kernel⟩) _ (ofSettings_resolvingIds _) _ _ same
  obtain ⟨_, _, _, statuses, _⟩ := agree _ _ (ofSettings_resolvingIds _)
  refine ⟨_, ofSettings_resolvingIds _, ?_⟩
  rw [statuses]
  decide +kernel

/-- An id as servers make them up. -/
def madeUpId : RequestId :=
  ⟨⟨utf8 "6f1b0e52-3c1a-4d57-9a3e-0b8d2c5e7f10".toList, by decide⟩, by decide, by decide +kernel⟩

/-- Another one. -/
def otherMadeUpId : RequestId :=
  ⟨⟨utf8 "c2d8a4f6-71b3-4e09-8f5a-93e6b1d07c24".toList, by decide⟩, by decide, by decide +kernel⟩

/-- One request without any headers, sent to two servers that look for addresses in ids: their
resolvers do not report the same. -/
theorem resolverEvents_differ :
    let steps : List Step := [.request ⟨.get, ⟨"/ip".toList, none⟩, ⟨[]⟩, none⟩]
    0 < resolvingIds.timeouts.requestSecs ∧
      List.Forall₂ (Step.Related (Request.SameFor resolvingIds.resolution)) steps steps ∧
      ∃ server server', ofSettings resolvingIds (fun _ => madeUpId) = .ok server ∧
        ofSettings resolvingIds (fun _ => otherMadeUpId) = .ok server' ∧
        (server'.exchanges steps).map Exchange.resolverEvents ≠
          (server.exchanges steps).map Exchange.resolverEvents := by
  intro steps
  have same : Request.SameFor resolvingIds.resolution ⟨.get, ⟨"/ip".toList, none⟩, ⟨[]⟩, none⟩
      ⟨.get, ⟨"/ip".toList, none⟩, ⟨[]⟩, none⟩ := ⟨rfl, rfl, rfl, .inr (.inr rfl)⟩
  exact ⟨by decide, .cons (.request same) .nil, _, _, ofSettings_resolvingIds _,
    ofSettings_resolvingIds _, by decide +kernel⟩

end Server

end ClientOrigin
