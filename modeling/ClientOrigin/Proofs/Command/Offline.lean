import ClientOrigin.Command.Resolve
import ClientOrigin.Http.Request
import ClientOrigin.Proofs.Resolve.Fallback
import ClientOrigin.Proofs.Service.Server
import ClientOrigin.Proofs.Text.LowerCase

/-!
# The offline command and the server

The command resolves an address by itself; a server goes through its settings, the text of the
peer, its layers and the choice of a rendering.  They agree (`report_eq_answer`).

* **settings** — a header name is its own setting (`ofSetting_of_ofText?`), so both have one
  resolver;
* **peer** — the server writes the peer down and reads it again, and finds the same address
  (`resolvePeer_connection`);
* **rendering** — no header of the request says how the address is to be shown, so the query does
  (`rendering_indented`).
-/

namespace ClientOrigin

open Text

/-! ## Settings -/

namespace HeaderName

theorem not_isTokenChar_blankCodes :
    ∀ n ∈ blankCodes, isTokenChar (asciiLower (Char.ofNat n)) = false := by
  decide +kernel

/-- There is no white space in a header name. -/
theorem trim_of_ofText? {s : Text} {name : HeaderName} (h : ofText? s = some name) :
    trim s = s := by
  refine trim_of_not_blank fun c mem => Bool.eq_false_iff.mpr fun blank => ?_
  have lowered : asciiLower c ∈ name.text := by
    rw [text_of_ofText? h]
    exact List.mem_map_of_mem mem
  have token := List.all_eq_true.mp name.tokens _ lowered
  have none := not_isTokenChar_blankCodes c.toNat (toNat_mem_blankCodes blank)
  rw [Char.ofNat_toNat] at none
  rw [none] at token
  exact Bool.false_ne_true token

/-- A header name as a setting names that header. -/
theorem ofSetting_of_ofText? {s : Text} {name : HeaderName} (h : ofText? s = some name) :
    ofSetting s = .ok (some name) := by
  have nonempty : s ≠ [] := by
    rintro rfl
    exact absurd (text_of_ofText? h) name.nonempty
  unfold ofSetting
  rw [trim_of_ofText? h, if_neg nonempty, h]

end HeaderName

/-! ## Rendering -/

namespace Handler

/-- The headers that say how an address is to be shown. -/
def renderingHeaders : List Text :=
  ["x-format".toList, "format".toList] ++ ["x-pretty".toList, "pretty".toList]

end Handler

/-- None of the lines is of the given header. -/
def HeaderMap.Lacks (headers : HeaderMap) (name : Text) : Prop :=
  ∀ line ∈ headers.lines, eqIgnoringAsciiCase line.1.text name = false

theorem Parameter.headerValue?_of_lacks {headers : HeaderMap} {name : Text}
    (lacks : headers.Lacks name) : headerValue? headers name = none := by
  cases named : HeaderName.ofText? name with
  | none => simp [headerValue?, named]
  | some header =>
      have none : headers.all header = [] := by
        unfold HeaderMap.all
        rw [List.map_eq_nil_iff, List.filter_eq_nil_iff]
        intro line mem same
        have differ := lacks line mem
        have text := HeaderName.text_of_ofText? named
        rw [of_decide_eq_true same] at differ
        unfold eqIgnoringAsciiCase at differ
        rw [HeaderName.map_asciiLower, text] at differ
        simp at differ
      simp [headerValue?, named, HeaderMap.first?, none]

theorem Parameter.read_of_lacks {headers : HeaderMap} {names : List Text}
    (lacks : ∀ name ∈ names, headers.Lacks name) (query : Query) :
    read headers query names = readQuery query names := by
  have none : names.findSome? (headerValue? headers) = none :=
    List.findSome?_eq_none_iff.mpr fun name mem => headerValue?_of_lacks (lacks name mem)
  simp [read, readHeader, none]

/-- Where no header says how the address is to be shown, the query does. -/
theorem Handler.rendering_indented {q : Request}
    (lacks : ∀ name ∈ Handler.renderingHeaders, q.headers.Lacks name)
    (query : q.target.query = some "pretty=1".toList) : Handler.rendering q = .indented := by
  have format : Parameter.read q.headers q.query ["x-format".toList, "format".toList] = [] := by
    rw [Parameter.read_of_lacks fun name mem => lacks name (List.mem_append_left _ mem)]
    unfold Request.query
    rw [query]
    decide +kernel
  have pretty : Parameter.read q.headers q.query ["x-pretty".toList, "pretty".toList] = ['1'] := by
    rw [Parameter.read_of_lacks fun name mem => lacks name (List.mem_append_right _ mem)]
    unfold Request.query
    rw [query]
    decide +kernel
  have flag : Parameter.readFlag q.headers q.query false ["x-pretty".toList, "pretty".toList] =
      true := by
    unfold Parameter.readFlag
    rw [pretty]
    decide +kernel
  unfold Handler.rendering
  rw [format, flag]
  decide +kernel

/-- The id that a request is given is in none of these headers. -/
theorem Layer.identified_lacks {ids : Nat → RequestId} {v : Visit} {s : ServiceState} {name : Text}
    (other : eqIgnoringAsciiCase HeaderName.requestId.text name = false)
    (lacks : v.request.headers.Lacks name) :
    (identified ids v s).1.request.headers.Lacks name := by
  unfold identified
  split
  · exact lacks
  · intro line mem
    rcases List.mem_append.mp mem with own | id
    · exact lacks line own
    · rw [List.mem_singleton.mp id]
      exact other

/-! ## Peer -/

namespace Resolver

/-- A peer that is written down as the address of a connection stays the same client. -/
theorem resolvePeer_connection (peer : Text) :
    (resolvePeer (((Endpoint.ofText? (trim peer)).map Endpoint.print).getD [])).1 =
      (resolvePeer peer).1 := by
  rcases resolvePeer_cases peer with ⟨e, read, found⟩ | ⟨read, failed⟩
  · rw [read, Option.map_some, Option.getD_some, resolvePeer_connected, found]
  · rw [read, Option.map_none, Option.getD_none, resolvePeer_unconnected, failed]

/-- So a request whose connection is the peer is attributed as the peer itself. -/
theorem client_of_peer (r : Resolver) {q : Request} {peer : Text}
    (connection : q.peer = Endpoint.ofText? (trim peer)) :
    r.client q = (r.resolve q.headers peer).1 := by
  unfold client
  rw [resolve_fst, resolve_fst, Request.peerText, connection, resolvePeer_connection]

end Resolver

/-! ## The command -/

namespace ResolveCommand

/-- The networks that the command names. -/
def networks? (c : ResolveCommand) : Option (List Network) :=
  c.trusted.mapM fun text => Network.ofText? (trim text)

/-- The settings of a server that resolves as the command does. -/
def settings (c : ResolveCommand) (networks : List Network) : ResolutionSettings :=
  { behindProxy := !c.direct, forwardedHeader := c.header, trustedNetworks := networks }

/-- The request that the command is about: with one line if there is a value, and from the peer
if that is a socket address. -/
def request (c : ResolveCommand) : Except RequestError Request :=
  Request.ofParts "GET".toList "/ip?pretty=1".toList
    (c.value.toList.map fun value => (c.header, utf8 value))
    (if (Endpoint.ofText? (trim c.peer)).isSome then some (trim c.peer) else none)

/-- The same request, once its lines have been read. -/
def asking (c : ResolveCommand) (headers : HeaderMap) : Request :=
  ⟨.get, ⟨"/ip".toList, some "pretty=1".toList⟩, headers, Endpoint.ofText? (trim c.peer)⟩

theorem exit_eq_zero_iff (c : ResolveCommand) :
    c.report.exit = 0 ↔ ∃ resolution, c.resolve = .ok resolution := by
  unfold report
  cases c.resolve with
  | ok resolution => simp [Report.done]
  | error failure => simp [Report.failed]

/-- A command that succeeds has read its header, its networks and its value. -/
theorem resolve_eq_ok_iff (c : ResolveCommand) (resolution : Resolution) :
    c.resolve = .ok resolution ↔
      ∃ header networks headers, HeaderName.ofText? c.header = some header ∧
        c.networks? = some networks ∧ headersOf header c.value = .ok headers ∧
        resolution =
          (Resolver.resolve ⟨!c.direct, some header, .ofList networks⟩ headers c.peer).1 := by
  unfold resolve networks? TrustedSet.ofTexts?
  cases HeaderName.ofText? c.header with
  | none => simp
  | some header =>
      cases c.trusted.mapM fun text => Network.ofText? (trim text) with
      | none => simp
      | some networks =>
          cases read : headersOf header c.value with
          | error failure => simp [read, Except.map]
          | ok headers => simp [read, Except.map, eq_comm]

/-- The lines of the request are those that the command looks at. -/
theorem ofLines_of_headersOf {name : Text} {header : HeaderName}
    (named : HeaderName.ofText? name = some header) {value : Option Text} {headers : HeaderMap}
    (read : headersOf header value = .ok headers) :
    HeaderMap.ofLines (value.toList.map fun value => (name, utf8 value)) = .ok headers ∧
      ∀ line ∈ headers.lines, line.1 = header := by
  cases value with
  | none =>
      obtain rfl : HeaderMap.empty = headers := Except.ok.inj read
      exact ⟨rfl, fun line impossible => absurd impossible List.not_mem_nil⟩
  | some value =>
      unfold headersOf HeaderValue.ofText? at read
      cases bytes : HeaderValue.ofBytes? (utf8 value) with
      | none => simp [bytes] at read
      | some line =>
          simp only [bytes, Except.ok.injEq] at read
          subst read
          simp [HeaderMap.ofLines, named, bytes, Except.map, HeaderMap.empty]

theorem request_eq_ok {c : ResolveCommand} {header : HeaderName} {headers : HeaderMap}
    (named : HeaderName.ofText? c.header = some header)
    (read : headersOf header c.value = .ok headers) :
    c.request = .ok (c.asking headers) := by
  have method : Method.ofText? "GET".toList = some .get := rfl
  have target : Target.ofText "/ip?pretty=1".toList =
      .ok ⟨"/ip".toList, some "pretty=1".toList⟩ := by decide +kernel
  have peer : Request.readPeer
      (if (Endpoint.ofText? (trim c.peer)).isSome then some (trim c.peer) else none) =
        .ok (Endpoint.ofText? (trim c.peer)) := by
    cases connection : Endpoint.ofText? (trim c.peer) with
    | none => rfl
    | some e =>
        rw [Option.isSome_some, if_pos rfl]
        unfold Request.readPeer
        dsimp only
        rw [connection]
  unfold request Request.ofParts
  rw [method, target, (ofLines_of_headersOf named read).1]
  simp only [Except.mapError, peer]
  rfl

end ResolveCommand

/-! ## The server -/

/-- A server without a limiter shows the client of a request for `/ip?pretty=1` indented, unless a
header says otherwise. -/
theorem Server.handle_indented {s : Settings} (ids : Nat → RequestId) (r : Resolver)
    (off : s.limit.enabled = false) (time : 0 < s.timeouts.requestSecs.toNat) {q : Request}
    (asked : q.method = .get)
    (target : q.target = ⟨"/ip".toList, some "pretty=1".toList⟩)
    (lacks : ∀ name ∈ Handler.renderingHeaders, q.headers.Lacks name) (st : ServiceState) :
    ((assembled s ids r).application.handle q st).response.status = .ok ∧
      ((assembled s ids r).application.handle q st).response.body =
        (r.client q).render .indented := by
  have status : ((assembled s ids r).application.handle q st).response.status = .ok := by
    rw [(handle_of_unlimited s ids r q st time off).1]
    unfold Routes.serverStatus
    rw [target, asked]
    rfl
  have bodied : q.method ≠ .head := by
    rw [asked]
    decide
  have sameTarget : (Layer.resolved r (entry ids q st).1).request.target = q.target :=
    Layer.identified_target ids (.ofRequest q) st
  have sameMethod : (Layer.resolved r (entry ids q st).1).request.method = q.method :=
    Layer.identified_method ids (.ofRequest q) st
  have silent : ∀ name ∈ Handler.renderingHeaders,
      eqIgnoringAsciiCase HeaderName.requestId.text name = false := by decide
  have indented : Handler.rendering (Layer.resolved r (entry ids q st).1).request = .indented := by
    refine Handler.rendering_indented (fun name mem => ?_) (by rw [sameTarget, target])
    exact Layer.identified_lacks (v := .ofRequest q) (silent name mem) (lacks name mem)
  refine ⟨status, ?_⟩
  rw [handle_body_of_ok s ids r q st bodied status,
    Routes.respond_address (resolved_entry_client ids r q st) (by rw [sameTarget, target])
      (by rw [sameMethod, asked]), indented]

namespace ResolveCommand

/-- **Offline and online.**  Where the command succeeds, its request can be made, a server of the
same settings without a limiter can be set up, and whatever state that server is in, it answers
what the command writes, but for the end of the line.  The header must not be one that says how
the address is to be shown. -/
theorem report_eq_answer (c : ResolveCommand) (succeeds : c.report.exit = 0)
    (free : ∀ name ∈ Handler.renderingHeaders, eqIgnoringAsciiCase c.header name = false) :
    ∃ networks q, c.networks? = some networks ∧ c.request = .ok q ∧
      ∀ (s : Settings) (ids : Nat → RequestId), s.resolution = c.settings networks →
        s.limit.enabled = false → 0 < s.timeouts.requestSecs →
        ∃ server, Server.ofSettings s ids = .ok server ∧
          ∀ st, (server.application.handle q st).response.status = .ok ∧
            c.report.output = (server.application.handle q st).response.body ++ ['\n'] := by
  obtain ⟨resolution, resolved⟩ := c.exit_eq_zero_iff.mp succeeds
  obtain ⟨header, networks, headers, named, listed, read, rfl⟩ :=
    (c.resolve_eq_ok_iff resolution).mp resolved
  refine ⟨networks, _, listed, request_eq_ok named read, ?_⟩
  intro s ids same off time
  -- both resolve with one resolver, made from the settings or given to the command
  have made : Resolver.ofSettings s.resolution =
      .ok ⟨!c.direct, some header, .ofList networks⟩ := by
    rw [same]
    unfold Resolver.ofSettings settings
    rw [HeaderName.ofSetting_of_ofText? named]
    rfl
  refine ⟨_, (Server.ofSettings_eq_ok_iff s ids _).mpr ⟨_, made, rfl⟩, fun st => ?_⟩
  have lacks : ∀ name ∈ Handler.renderingHeaders, headers.Lacks name := by
    intro name mem line listed
    rw [(ofLines_of_headersOf named read).2 line listed]
    have differ := free name mem
    unfold eqIgnoringAsciiCase at differ ⊢
    rw [HeaderName.map_asciiLower, HeaderName.text_of_ofText? named]
    exact differ
  obtain ⟨status, body⟩ := Server.handle_indented ids ⟨!c.direct, some header, .ofList networks⟩ off
    (UInt64.lt_iff_toNat_lt.mp time) (q := c.asking headers) rfl rfl lacks st
  refine ⟨status, ?_⟩
  have client := Resolver.client_of_peer ⟨!c.direct, some header, .ofList networks⟩
    (q := c.asking headers) rfl
  rw [body, client]
  unfold report
  rw [resolved]
  rfl

/-- A chain with a client's own entry, a peer with a scope and white space around it, and a proxy
with host bits: server and command see `1.2.3.4`. -/
theorem report_eq_answer_forwarded :
    let c : ResolveCommand :=
      { header := "X-Request-ID".toList
        value := some "6.6.6.6, for=1.2.3.4:80, 10.0.0.3".toList
        peer := " [fe80::1%7]:080 ".toList
        trusted := [" 10.1.2.3/8 ".toList] }
    c.report.exit = 0 ∧
    (∀ name ∈ Handler.renderingHeaders, eqIgnoringAsciiCase c.header name = false) ∧
    ∃ (networks : List Network) (q : Request) (server : Server),
      q.peer = some (.v6 0xFE800000000000000000000000000001#128 0 7 80) ∧
      Server.ofSettings { resolution := c.settings networks }
        (fun _ => ⟨.ofNat 42, by decide, by decide +kernel⟩) = .ok server ∧
      (server.application.handle q server.state).response.body ++ ['\n'] =
        "\x7b\n  \"ip\": \"1.2.3.4\",\n  \"source\": \"header\"\n\x7d\n".toList := by
  intro c
  have succeeds : c.report.exit = 0 := by decide +kernel
  have free : ∀ name ∈ Handler.renderingHeaders, eqIgnoringAsciiCase c.header name = false := by
    decide +kernel
  obtain ⟨networks, q, _, asked, agrees⟩ := report_eq_answer c succeeds free
  obtain ⟨server, made, answers⟩ := agrees { resolution := c.settings networks }
    (fun _ => ⟨.ofNat 42, by decide, by decide +kernel⟩) rfl rfl (by decide : (0 : UInt64) < 30)
  refine ⟨succeeds, free, networks, q, server, ?_, made, ?_⟩
  · have known : c.request.toOption.bind Request.peer =
        some (.v6 0xFE800000000000000000000000000001#128 0 7 80) := by decide +kernel
    rw [asked] at known
    exact known
  · rw [← (answers server.state).2]
    decide +kernel

end ResolveCommand

end ClientOrigin
