import ClientOrigin.Proofs.Address.Endpoint

/-!
# From the header to the peer

A resolver tries the header, then the peer, and then gives up.  `resolve_cases` and
`resolvePeer_cases` say everything that can come of it: the client, its source and what is logged.
What is logged is at most one report for each attempt that failed (`resolve_reports`), and all of it
depends on the headers only through the header attempt (`resolve_congr`).
-/

namespace ClientOrigin

open Text

/-- The entry is an event of the level with the message. -/
structure LogEvent.Says (event : LogEvent) (level : LogLevel) (message : String) : Prop where
  kind : event.kind = .event
  level : event.level = level
  text : event.text = message

/-- The report of a resolver that has found no address in the header. -/
def headerMessage : String := "Header resolution failed, falling back to peer address"

/-- The warning of a resolver that has no address for a request. -/
def peerMessage : String := "Unable to parse peer address, using unspecified address (0.0.0.0)"

namespace Resolver

/-- The peer attempt finds a socket address, or it is reported. -/
theorem resolvePeer_cases (peer : Text) :
    (∃ e, Endpoint.ofText? (trim peer) = some e ∧
      resolvePeer peer = (⟨e.address.canonical, .peer⟩, [])) ∨
    (Endpoint.ofText? (trim peer) = none ∧
      resolvePeer peer =
        (⟨.unspecified, .unspecified⟩, [peerFailed (.malformedPeer peer) peer])) := by
  unfold resolvePeer fromPeer
  cases read : Endpoint.ofText? (trim peer) with
  | some e => exact .inl ⟨e, rfl, rfl⟩
  | none => exact .inr ⟨rfl, rfl⟩

/-- The peer attempt finds the address of a connection and has nothing to report. -/
theorem resolvePeer_connected (e : Endpoint) :
    resolvePeer e.print = (⟨e.address.canonical, .peer⟩, []) := by
  unfold resolvePeer
  rw [fromPeer_print]

/-- Without a connection the peer attempt fails. -/
theorem resolvePeer_unconnected :
    resolvePeer [] = (⟨.unspecified, .unspecified⟩, [peerFailed (.malformedPeer []) []]) := by
  have unknown : fromPeer [] = .error (.malformedPeer []) := by decide
  unfold resolvePeer
  rw [unknown]

/-- The header attempt succeeds in silence, is not made, or is reported before the peer attempt. -/
theorem resolve_cases (r : Resolver) (headers : HeaderMap) (peer : Text) :
    (∃ header a, r.activeHeader? = some header ∧ r.fromHeader header headers = .ok a ∧
      r.resolve headers peer = (⟨a, .header⟩, [])) ∨
    (r.activeHeader? = none ∧ r.resolve headers peer = resolvePeer peer) ∨
    (∃ header e, r.activeHeader? = some header ∧ r.fromHeader header headers = .error e ∧
      r.resolve headers peer =
        ((resolvePeer peer).1, headerFailed e peer :: (resolvePeer peer).2)) := by
  unfold resolve
  cases active : r.activeHeader? with
  | none => exact .inr (.inl ⟨rfl, rfl⟩)
  | some header =>
      cases attempt : r.fromHeader header headers with
      | ok a => exact .inl ⟨header, a, rfl, attempt, by simp only [attempt]⟩
      | error e => exact .inr (.inr ⟨header, e, rfl, attempt, by simp only [attempt]⟩)

/-- A resolver reports a failed header attempt at most, and then a failed peer attempt at most. -/
theorem resolve_reports (r : Resolver) (headers : HeaderMap) (peer : Text) :
    ∃ fallback failure : Option LogEvent,
      (r.resolve headers peer).2 = fallback.toList ++ failure.toList ∧
      (∀ event ∈ fallback, event.Says .debug headerMessage) ∧
      ∀ event ∈ failure, event.Says .warn peerMessage := by
  have silent : ∀ level message, ∀ event ∈ (none : Option LogEvent), event.Says level message :=
    fun _ _ event impossible => absurd impossible (Option.not_mem_none event)
  have peerReport : ∃ failure : Option LogEvent, (resolvePeer peer).2 = failure.toList ∧
      ∀ event ∈ failure, event.Says .warn peerMessage := by
    rcases resolvePeer_cases peer with ⟨e, _, found⟩ | ⟨_, failed⟩
    · rw [found]
      exact ⟨none, rfl, silent _ _⟩
    · rw [failed]
      refine ⟨some _, rfl, fun event reported => ?_⟩
      obtain rfl := Option.some.inj reported
      exact ⟨rfl, rfl, rfl⟩
  obtain ⟨failure, events, warned⟩ := peerReport
  rcases r.resolve_cases headers peer with
    ⟨_, a, _, _, given⟩ | ⟨_, direct⟩ | ⟨_, e, _, _, fallen⟩
  · rw [given]
    exact ⟨none, none, rfl, silent _ _, silent _ _⟩
  · rw [direct, events]
    exact ⟨none, failure, rfl, silent _ _, warned⟩
  · rw [fallen, events]
    refine ⟨some _, failure, rfl, fun event reported => ?_, warned⟩
    obtain rfl := Option.some.inj reported
    exact ⟨rfl, rfl, rfl⟩

/-- A resolver reports failed attempts, and nothing else. -/
theorem said_of_mem_resolve {r : Resolver} {headers : HeaderMap} {peer : Text} {event : LogEvent}
    (mem : event ∈ (r.resolve headers peer).2) :
    event.Says .debug headerMessage ∨ event.Says .warn peerMessage := by
  obtain ⟨fallback, failure, events, attempted, failed⟩ := r.resolve_reports headers peer
  rw [events] at mem
  rcases List.mem_append.mp mem with first | second
  · exact .inl (attempted event (Option.mem_toList.mp first))
  · exact .inr (failed event (Option.mem_toList.mp second))

/-- Of all headers the resolver reads the one that it looks at, and only through its attempt. -/
theorem resolve_congr {r : Resolver} {headers headers' : HeaderMap}
    (same : ∀ header, r.activeHeader? = some header →
      r.fromHeader header headers' = r.fromHeader header headers) (peer : Text) :
    r.resolve headers' peer = r.resolve headers peer := by
  unfold resolve
  cases active : r.activeHeader? with
  | none => rfl
  | some header =>
      dsimp only
      rw [same header active]

end Resolver

end ClientOrigin
