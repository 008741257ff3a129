import ClientOrigin.Proofs.Address.Grammar
import ClientOrigin.Proofs.Resolve.Fallback

/-!
# The chain of attempts

A request is attributed to the first attempt that succeeds: the header if it is looked at, then the
peer, then `0.0.0.0`.  A failed header attempt is reported, and then a failed peer attempt, and
nothing else (`resolve_chain`).  A report says in words what went wrong: a failed header attempt
found no value, no address in the value, or only trusted ones (`fromHeader_error`).

The peer attempt succeeds on the literals of socket addresses with white space around them and on
no other text (`fromPeer_eq_ok_iff`).
-/

namespace ClientOrigin.Resolver

open Text

/-! ## The peer attempt -/

/-- The peer attempt knows the literals of socket addresses, white space apart. -/
theorem fromPeer_eq_ok_iff {peer : Text} {a : Address} :
    fromPeer peer = .ok a ↔
      ∃ front back, ∃ l : Endpoint.Literal, Blank front ∧ Blank back ∧
        peer = front ++ l.text ++ back ∧ l.endpoint.address.canonical = a := by
  constructor
  · intro found
    obtain ⟨front, back, before, behind, text⟩ := exists_trim peer
    unfold fromPeer at found
    split at found
    · next e read =>
        obtain ⟨l, written, rfl⟩ := Endpoint.ofText?_eq_some_iff.mp read
        rw [← written] at text
        exact ⟨front, back, l, before, behind, text, Except.ok.inj found⟩
    · exact nomatch found
  · rintro ⟨front, back, l, before, behind, rfl, rfl⟩
    unfold fromPeer
    rw [trim_pad before behind, l.trim_text, Endpoint.ofText?_text]

/-- A failed peer attempt names the peer. -/
theorem fromPeer_error {peer : Text} {e : ResolveError} (failed : fromPeer peer = .error e) :
    e = .malformedPeer peer := by
  unfold fromPeer at failed
  split at failed
  · exact nomatch failed
  · exact (Except.error.inj failed).symm

/-! ## The header attempt -/

/-- The error of the header attempt at a header whose lines have this value together. -/
inductive Faults (r : Resolver) (header : HeaderName) (value : Text) : ResolveError → Prop
  | missing (empty : value = []) : Faults r header value (.headerMissing header)
  | noCandidate (present : value ≠ []) (none : Forwarded.candidates value = []) :
      Faults r header value (.noCandidate header value)
  | allTrusted (some : Forwarded.candidates value ≠ [])
      (trusted : ∀ a ∈ Forwarded.candidates value, r.trusted.contains a = true) :
      Faults r header value (.allTrusted header value)

/-- A failed header attempt names the header, and its value unless that is empty. -/
theorem fromHeader_error {r : Resolver} {header : HeaderName} {headers : HeaderMap}
    {e : ResolveError} (failed : r.fromHeader header headers = .error e) :
    r.Faults header (headerText header headers) e := by
  unfold fromHeader at failed
  dsimp only at failed
  split at failed
  · next missing =>
      obtain rfl := Except.error.inj failed
      exact .missing missing
  · next present =>
      split at failed
      · next none =>
          obtain rfl := Except.error.inj failed
          exact .noCandidate present none
      · next some =>
          split at failed
          · cases failed
          · next last =>
              obtain rfl := Except.error.inj failed
              have none := List.filter_eq_nil_iff.mp (List.getLast?_eq_none_iff.mp last)
              exact .allTrusted some fun a mem => by simpa using none a mem

/-! ## The chain -/

/-- What the header attempt gives, if it is made. -/
def attempt? (r : Resolver) (headers : HeaderMap) : Option (Except ResolveError Address) :=
  if r.behindProxy then r.header.map fun header => r.fromHeader header headers else none

/-- The report of a failed attempt: what went wrong, in words, and the text of the peer. -/
def report (level : LogLevel) (message error : String) (peer : Text) : LogEvent :=
  ⟨.event, level, "client_ip::client_ip::resolver", message,
    [("error", .shown error), ("remote_addr", .shown (String.ofList peer))]⟩

theorem attempt?_eq (r : Resolver) (headers : HeaderMap) :
    r.attempt? headers = r.activeHeader?.map fun header => r.fromHeader header headers := by
  unfold attempt? activeHeader?
  split <;> rfl

/-- The header attempt succeeds, is not made, or fails and is reported before the peer attempt. -/
theorem attempt?_cases (r : Resolver) (headers : HeaderMap) (peer : Text) :
    (∃ a, r.attempt? headers = some (.ok a) ∧ r.resolve headers peer = (⟨a, .header⟩, [])) ∨
    (r.attempt? headers = none ∧ r.resolve headers peer = resolvePeer peer) ∨
    (∃ e, r.attempt? headers = some (.error e) ∧ r.resolve headers peer =
      ((resolvePeer peer).1, headerFailed e peer :: (resolvePeer peer).2)) := by
  rw [attempt?_eq]
  rcases r.resolve_cases headers peer with
    ⟨header, a, active, given, result⟩ | ⟨inactive, result⟩ | ⟨header, e, active, failed, result⟩
  · exact .inl ⟨a, by rw [active, Option.map_some, given], result⟩
  · exact .inr (.inl ⟨by rw [inactive, Option.map_none], result⟩)
  · exact .inr (.inr ⟨e, by rw [active, Option.map_some, failed], result⟩)

/-- A failed header attempt is one at the header of the resolver. -/
theorem attempt?_error {r : Resolver} {headers : HeaderMap} {e : ResolveError}
    (failed : r.attempt? headers = some (.error e)) :
    ∃ header, r.header = some header ∧ r.Faults header (headerText header headers) e := by
  unfold attempt? at failed
  split at failed
  · obtain ⟨header, named, tried⟩ := Option.map_eq_some_iff.mp failed
    exact ⟨header, named, fromHeader_error tried⟩
  · cases failed

/-- The end of the chain: the peer, or nothing and a warning. -/
theorem resolvePeer_chain (peer : Text) :
    (∀ a, (resolvePeer peer).1 ≠ ⟨a, .header⟩) ∧
    (∀ a, (resolvePeer peer).1 = ⟨a, .peer⟩ ↔ fromPeer peer = .ok a) ∧
    (∀ a, (resolvePeer peer).1 = ⟨a, .unspecified⟩ ↔
      a = .unspecified ∧ ¬ ∃ b, fromPeer peer = .ok b) ∧
    (resolvePeer peer).2 =
      if (resolvePeer peer).1.source = .unspecified then
        [report .warn peerMessage
          ("unable to parse peer address " ++ String.ofList (quoted peer)) peer] else [] := by
  unfold resolvePeer
  cases found : fromPeer peer with
  | ok b => simp
  | error e =>
      obtain rfl := fromPeer_error found
      refine ⟨by simp, by simp, fun a => ?_, rfl⟩
      simp [eq_comm]

/-- **The chain of attempts.**  A request is attributed to the header exactly if the header attempt
is made and succeeds; if not, to the peer exactly if the peer attempt succeeds; and if both fail, to
`0.0.0.0`.  The log gets a report of the header attempt exactly if it was made and failed, and then
a warning exactly if nothing was found, and no other event.  The report says what is wrong with the
header that is looked at: that it is missing, that its value writes no address, or that all
addresses in the value are trusted.  The peer attempt succeeds exactly on the literals of socket
addresses, with white space around them or not, and gives the address in its canonical form. -/
theorem resolve_chain (r : Resolver) (headers : HeaderMap) (peer : Text) :
    let attempt := r.attempt? headers
    let client := (r.resolve headers peer).1
    (∀ a, client = ⟨a, .header⟩ ↔ attempt = some (.ok a)) ∧
    (∀ a, client = ⟨a, .peer⟩ ↔
      (¬ ∃ b, attempt = some (.ok b)) ∧ fromPeer peer = .ok a) ∧
    (∀ a, client = ⟨a, .unspecified⟩ ↔
      a = .unspecified ∧ (¬ ∃ b, attempt = some (.ok b)) ∧ ¬ ∃ b, fromPeer peer = .ok b) ∧
    (r.resolve headers peer).2 =
      (match attempt with
        | some (.error (.headerMissing header)) =>
          [report .debug headerMessage ("no " ++ String.ofList header.text ++ " header found") peer]
        | some (.error (.noCandidate header value)) =>
          [report .debug headerMessage
            ("no parseable address in " ++ String.ofList header.text ++ " header: " ++
              String.ofList value) peer]
        | some (.error (.allTrusted header value)) =>
          [report .debug headerMessage
            ("all addresses in " ++ String.ofList header.text ++ " header are trusted proxies: " ++
              String.ofList value) peer]
        | _ => []) ++
      (if client.source = .unspecified then
        [report .warn peerMessage
          ("unable to parse peer address " ++ String.ofList (quoted peer)) peer] else []) ∧
    (∀ e, attempt = some (.error e) →
      ∃ header, r.header = some header ∧
        r.Faults header (trim (joined [','] ((headers.all header).map HeaderValue.lossy))) e) ∧
    (∀ a, fromPeer peer = .ok a ↔
      ∃ front back, ∃ l : Endpoint.Literal, Blank front ∧ Blank back ∧
        peer = front ++ l.text ++ back ∧ l.endpoint.address.canonical = a) := by
  obtain ⟨notHeader, ofPeer, unspecified, events⟩ := resolvePeer_chain peer
  dsimp only
  rcases r.attempt?_cases headers peer with ⟨b, made, result⟩ | ⟨made, result⟩ | ⟨e, made, result⟩
  · rw [made, result]
    refine ⟨fun a => ?_, fun a => ?_, fun a => ?_, rfl, fun e failed => ?_,
      fun a => fromPeer_eq_ok_iff⟩
    · simp
    · simp
    · simp
    · cases failed
  · have none : ¬ ∃ b, (none : Option (Except ResolveError Address)) = some (.ok b) := by simp
    rw [made, result]
    refine ⟨fun a => ?_, fun a => ?_, fun a => ?_, events, fun e failed => ?_,
      fun a => fromPeer_eq_ok_iff⟩
    · exact iff_of_false (notHeader a) fun given => none ⟨a, given⟩
    · rw [ofPeer, and_iff_right none]
    · rw [unspecified, and_iff_right none]
    · cases failed
  · have failed : ¬ ∃ b, some (.error e : Except ResolveError Address) = some (.ok b) := by simp
    have names := attempt?_error made
    rw [made, result]
    refine ⟨fun a => ?_, fun a => ?_, fun a => ?_, ?_, fun e' same => ?_,
      fun a => fromPeer_eq_ok_iff⟩
    · exact iff_of_false (notHeader a) fun given => failed ⟨a, given⟩
    · rw [ofPeer, and_iff_right failed]
    · rw [unspecified, and_iff_right failed]
    · dsimp only
      rw [events]
      obtain ⟨header, _, faults⟩ := names
      cases faults with
      | missing => rfl
      | noCandidate => rfl
      | allTrusted => rfl
    · obtain rfl := Except.error.inj (Option.some.inj same)
      exact names

end ClientOrigin.Resolver
