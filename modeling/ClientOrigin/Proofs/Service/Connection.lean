import ClientOrigin.Proofs.Resolve.Fallback
import ClientOrigin.Proofs.Service.Record

/-!
# Every connection has an address

The peer reaches the resolver as text.  The text of a connection is always read back, so the
resolver gives up on a request only if there is no connection.

* `attributes_client` — the header decides first, the connection second, and the unspecified
  address is left for requests with neither;
* `connection_attributed` — a server hands this client to its inner layers, and logs it.
-/

namespace ClientOrigin

namespace Resolver

open Text

/-! ## The header -/

/-- There is a header to look at, and an address is found in it. -/
def HeaderGives (r : Resolver) (headers : HeaderMap) (a : Address) : Prop :=
  ∃ header, r.activeHeader? = some header ∧ r.fromHeader header headers = .ok a

/-- The header attempt fails, if it is made at all. -/
def HeaderSilent (r : Resolver) (headers : HeaderMap) : Prop :=
  ∀ header, r.activeHeader? = some header → ∃ e, r.fromHeader header headers = .error e

theorem HeaderGives.unique {r : Resolver} {headers : HeaderMap} {a b : Address}
    (first : r.HeaderGives headers a) (second : r.HeaderGives headers b) : a = b := by
  obtain ⟨header, active, found⟩ := first
  obtain ⟨other, active', found'⟩ := second
  obtain rfl := Option.some.inj (active.symm.trans active')
  exact Except.ok.inj (found.symm.trans found')

theorem HeaderSilent.not_gives {r : Resolver} {headers : HeaderMap}
    (silent : r.HeaderSilent headers) (a : Address) : ¬ r.HeaderGives headers a := by
  rintro ⟨header, active, found⟩
  obtain ⟨e, failed⟩ := silent header active
  cases failed.symm.trans found

/-! ## Attribution -/

/-- How a request is attributed: to the address that its header gives; failing that, to its
connection; and only if there is none, to the unspecified address. -/
structure Attributes (r : Resolver) (q : Request) (client : Resolution) : Prop where
  header : ∀ a, client = ⟨a, .header⟩ ↔ r.HeaderGives q.headers a
  peer : ∀ a, client = ⟨a, .peer⟩ ↔
    r.HeaderSilent q.headers ∧ ∃ e, q.peer = some e ∧ a = e.address.canonical
  unspecified : ∀ a, client = ⟨a, .unspecified⟩ ↔
    r.HeaderSilent q.headers ∧ q.peer = none ∧ a = .unspecified

/-- Where the header gives an address, the request is attributed to it. -/
theorem HeaderGives.attributes {r : Resolver} {q : Request} {a : Address}
    (given : r.HeaderGives q.headers a) : r.Attributes q ⟨a, .header⟩ := by
  have spoken : ¬ r.HeaderSilent q.headers := fun silent => silent.not_gives a given
  constructor
  · intro b
    constructor
    · intro same
      injection same with same
      exact same ▸ given
    · intro other
      rw [given.unique other]
  · intro b
    simp [spoken]
  · intro b
    simp [spoken]

/-- Where it gives none, the peer attempt decides. -/
theorem HeaderSilent.attributes {r : Resolver} {q : Request}
    (silent : r.HeaderSilent q.headers) : r.Attributes q (resolvePeer q.peerText).1 := by
  unfold Request.peerText
  cases connection : q.peer with
  | some e =>
      rw [Option.map_some, Option.getD_some, resolvePeer_connected]
      constructor
      · intro a
        simp [silent.not_gives a]
      · intro a
        simp [silent, connection, eq_comm]
      · intro a
        simp [connection]
  | none =>
      rw [Option.map_none, Option.getD_none, resolvePeer_unconnected]
      constructor
      · intro a
        simp [silent.not_gives a]
      · intro a
        simp [connection]
      · intro a
        simp [silent, connection, eq_comm]

/-- Every resolver attributes every request in this way. -/
theorem attributes_client (r : Resolver) (q : Request) : r.Attributes q (r.client q) := by
  unfold client
  rcases r.resolve_cases q.headers q.peerText with
    ⟨header, a, active, found, given⟩ | ⟨inactive, direct⟩ | ⟨header, e, active, failed, fallen⟩
  · rw [given]
    exact HeaderGives.attributes ⟨header, active, found⟩
  · rw [direct]
    refine HeaderSilent.attributes fun header active => ?_
    exact absurd (inactive.symm.trans active) (Option.some_ne_none header).symm
  · rw [fallen]
    refine HeaderSilent.attributes fun other active' => ?_
    obtain rfl := Option.some.inj (active.symm.trans active')
    exact ⟨e, failed⟩

/-- The source of a request with a connection is never unspecified. -/
theorem Attributes.source_ne_unspecified {r : Resolver} {q : Request} {client : Resolution}
    (attributed : r.Attributes q client) {e : Endpoint} (connection : q.peer = some e) :
    client.source ≠ .unspecified := by
  intro unspecified
  have whole : client = ⟨client.address, .unspecified⟩ := by rw [← unspecified]
  obtain ⟨_, none, _⟩ := (attributed.unspecified client.address).mp whole
  exact absurd (connection.symm.trans none) (Option.some_ne_none e)

end Resolver

/-! ## Layer and server -/

/-- What the report of an answer says about the client. -/
theorem Layer.requestCompleted_client (v : Visit) (client : Resolution) (status : Status) :
    (requestCompleted v client status).fields.lookup "client_ip" =
        some (.shown (String.ofList client.address.print)) ∧
      (requestCompleted v client status).fields.lookup "source" =
        some (.text client.source.name) :=
  ⟨rfl, rfl⟩

namespace Server

/-- **Connections.**  The text of every connection is read as its canonical address.  So whatever
the resolver, the client that it hands on is that of the header if the header gives one, else that
of the connection, and it is unspecified exactly if there is neither.  In particular, wherever a
server is set up whose requests have time, every request with a connection is logged with a client
from the header or from that connection. -/
theorem connection_attributed :
    (∀ e : Endpoint, Resolver.fromPeer e.print = .ok e.address.canonical) ∧
    (∀ (r : Resolver) (v : Visit), ∃ client, r.Attributes v.request client ∧
      ((∃ e, v.request.peer = some e) → client.source ≠ .unspecified) ∧
      ∀ (inner : Service) (st : ServiceState),
        (Layer.resolving r inner v st).response =
          (inner { v with client := some client }
            (st.counting (.resolved client.source))).response) ∧
    ∀ (s : Settings) (ids : Nat → RequestId) (server : Server),
      ofSettings s ids = .ok server → 0 < s.timeouts.requestSecs →
      ∃ r, Resolver.ofSettings s.resolution = .ok r ∧
        ∀ (q : Request) (st : ServiceState), ∃ client report,
          r.Attributes q client ∧
          ((∃ e, q.peer = some e) → client.source ≠ .unspecified) ∧
          (server.application.handle q st).events.getLast? = some report ∧
          report.text = "Request completed" ∧
          report.fields.lookup "client_ip" =
            some (.shown (String.ofList client.address.print)) ∧
          report.fields.lookup "source" = some (.text client.source.name) := by
  refine ⟨Resolver.fromPeer_print, ?_, ?_⟩
  · intro r v
    have attributed := r.attributes_client v.request
    refine ⟨r.client v.request, attributed, ?_, fun _ _ => rfl⟩
    rintro ⟨e, connection⟩
    exact attributed.source_ne_unspecified connection
  · intro s ids server accepted time
    obtain ⟨r, made, rfl⟩ := (ofSettings_eq_ok_iff s ids server).mp accepted
    refine ⟨r, made, fun q st => ?_⟩
    have attributed := r.attributes_client q
    obtain ⟨events, _⟩ := handle_record s ids r q st (UInt64.lt_iff_toNat_lt.mp time)
    obtain ⟨address, source⟩ := Layer.requestCompleted_client
      (Layer.resolved r (entry ids q st).1) (r.client q)
      ((assembled s ids r).application.handle q st).response.status
    refine ⟨r.client q, _, attributed, ?_, ?_, rfl, address, source⟩
    · rintro ⟨e, connection⟩
      exact attributed.source_ne_unspecified connection
    · rw [events, ← List.cons_append, List.getLast?_concat]

/-- A connection in IPv4-mapped form, with a flow label and a scope, that comes past the proxy. -/
theorem connection_attributed_mapped :
    let q : Request := ⟨.get, ⟨"/ip".toList, none⟩, .empty,
      some (.v6 0xFFFF01020304#128 5 7 443)⟩
    ∃ server, ofSettings onePerSecond (fun _ => ⟨.ofNat 443, by decide, by decide +kernel⟩) =
        .ok server ∧
      0 < onePerSecond.timeouts.requestSecs ∧
      ∃ report, (server.application.handle q server.state).events.getLast? = some report ∧
        report.fields.lookup "client_ip" = some (.shown "1.2.3.4") ∧
        report.fields.lookup "source" = some (.text "peer") := by
  intro q
  have made : Resolver.ofSettings onePerSecond.resolution =
      .ok ⟨true, some ⟨"x-real-ip".toList, by decide, by decide⟩, .empty⟩ := by
    decide +kernel
  have accepted := (ofSettings_eq_ok_iff onePerSecond
    (fun _ => ⟨.ofNat 443, by decide, by decide +kernel⟩) _).mpr ⟨_, made, rfl⟩
  have time : 0 < onePerSecond.timeouts.requestSecs := by decide
  obtain ⟨r, same, reports⟩ := connection_attributed.2.2 onePerSecond _ _ accepted time
  obtain rfl : _ = r := Except.ok.inj (made.symm.trans same)
  obtain ⟨client, report, attributed, _, last, _, address, source⟩ :=
    reports q (assembled onePerSecond _ _).state
  -- the proxy has written no header, so the client is the connection
  have missing : Resolver.fromHeader
      ⟨true, some ⟨"x-real-ip".toList, by decide, by decide⟩, .empty⟩
      ⟨"x-real-ip".toList, by decide, by decide⟩ q.headers =
        .error (.headerMissing ⟨"x-real-ip".toList, by decide, by decide⟩) := by
    decide
  have silent : Resolver.HeaderSilent
      ⟨true, some ⟨"x-real-ip".toList, by decide, by decide⟩, .empty⟩ q.headers := by
    intro header active
    obtain rfl := Option.some.inj active
    exact ⟨_, missing⟩
  obtain rfl := (attributed.peer (.v4 0x01020304#32)).mpr ⟨silent, _, rfl, by decide⟩
  refine ⟨_, accepted, time, report, last, ?_, source⟩
  rw [address]
  decide +kernel

end Server

end ClientOrigin
