import ClientOrigin.Proofs.Resolve.Rightmost
import ClientOrigin.Proofs.Service.Server

/-!
# Tampering with the forwarding header

A client may write what it likes to the left of the address that the nearest untrusted hop has
noted, and trusted hops may add their own addresses on the right.  `Tampered` says what may
become of the lines of a header that way.

* `addresses_of_tampered` — tampering puts addresses before a chain, and trusted ones behind it;
* `resolve_tampered` — it changes neither what a request resolves to nor how the server
  treats it.
-/

namespace ClientOrigin

open Text

namespace HeaderValue

theorem all_isValueByte_comma (x y : HeaderValue) :
    (x.bytes ++ 0x2C :: y.bytes).all isValueByte = true := by
  rw [List.all_append, List.all_cons, x.legal, y.legal]
  decide

/-- Two values with a comma between them. -/
def comma (x y : HeaderValue) : HeaderValue :=
  ⟨x.bytes ++ 0x2C :: y.bytes, all_isValueByte_comma x y⟩

/-- Neither value reaches over the comma, whatever bytes it has. -/
theorem lossy_comma (x y : HeaderValue) : (x.comma y).lossy = x.lossy ++ ',' :: y.lossy :=
  decodeLossy_append_ascii (by decide) x.bytes y.bytes

theorem candidates_comma (x y : HeaderValue) :
    Forwarded.candidates (x.comma y).lossy =
      Forwarded.candidates x.lossy ++ Forwarded.candidates y.lossy := by
  rw [lossy_comma, Forwarded.candidates_append_comma]

/-- The addresses of some lines, line after line. -/
def addresses (lines : List HeaderValue) : List Address :=
  lines.flatMap fun line => Forwarded.candidates line.lossy

theorem addresses_append (front back : List HeaderValue) :
    addresses (front ++ back) = addresses front ++ addresses back := List.flatMap_append

theorem addresses_cons (line : HeaderValue) (rest : List HeaderValue) :
    addresses (line :: rest) = Forwarded.candidates line.lossy ++ addresses rest :=
  List.flatMap_cons

theorem addresses_singleton (line : HeaderValue) :
    addresses [line] = Forwarded.candidates line.lossy := List.flatMap_singleton _ line

end HeaderValue

open HeaderValue

theorem HeaderMap.chain_eq_addresses (headers : HeaderMap) (header : HeaderName) :
    headers.chain header.text = addresses (headers.all header) := by
  unfold chain addresses
  rw [named_text]

/-! ## Tampered lines -/

/-- A value names trusted addresses only, or none. -/
def TrustedSet.Covers (trusted : TrustedSet) (value : HeaderValue) : Prop :=
  ∀ b ∈ Forwarded.candidates value.lossy, trusted.contains b = true

/-- What may become of the lines of a header: any line before them, any bytes and a comma before
the first of them, and trusted addresses behind the last one, in its line or in a line of their
own.  All this may happen any number of times and in any order. -/
inductive Tampered (trusted : TrustedSet) (lines : List HeaderValue) :
    List HeaderValue → Prop
  | untouched : Tampered trusted lines lines
  | lineBefore (x : HeaderValue) {now : List HeaderValue} :
      Tampered trusted lines now → Tampered trusted lines (x :: now)
  | textBefore (x : HeaderValue) {first : HeaderValue} {rest : List HeaderValue} :
      Tampered trusted lines (first :: rest) →
        Tampered trusted lines (x.comma first :: rest)
  | lineAfter (y : HeaderValue) {now : List HeaderValue} (own : trusted.Covers y) :
      Tampered trusted lines now → Tampered trusted lines (now ++ [y])
  | textAfter (y : HeaderValue) {front : List HeaderValue} {last : HeaderValue}
      (own : trusted.Covers y) :
      Tampered trusted lines (front ++ [last]) →
        Tampered trusted lines (front ++ [last.comma y])

/-- Tampering puts any addresses before those of the lines, and trusted ones behind them. -/
theorem addresses_of_tampered {trusted : TrustedSet} {lines now : List HeaderValue}
    (tampered : Tampered trusted lines now) :
    ∃ pre suf, addresses now = pre ++ addresses lines ++ suf ∧
      ∀ b ∈ suf, trusted.contains b = true := by
  induction tampered with
  | untouched =>
      refine ⟨[], [], ?_, ?_⟩
      · rw [List.nil_append, List.append_nil]
      · intro b impossible
        exact absurd impossible List.not_mem_nil
  | lineBefore x _ ih =>
      obtain ⟨pre, suf, split, own⟩ := ih
      refine ⟨Forwarded.candidates x.lossy ++ pre, suf, ?_, own⟩
      rw [addresses_cons, split]
      simp only [List.append_assoc]
  | textBefore x _ ih =>
      obtain ⟨pre, suf, split, own⟩ := ih
      refine ⟨Forwarded.candidates x.lossy ++ pre, suf, ?_, own⟩
      rw [addresses_cons] at split
      rw [addresses_cons, candidates_comma, List.append_assoc, split]
      simp only [List.append_assoc]
  | lineAfter y behind _ ih =>
      obtain ⟨pre, suf, split, own⟩ := ih
      refine ⟨pre, suf ++ Forwarded.candidates y.lossy, ?_, ?_⟩
      · rw [addresses_append, addresses_singleton, split]
        simp only [List.append_assoc]
      · intro b member
        exact (List.mem_append.mp member).elim (own b) (behind b)
  | textAfter y behind _ ih =>
      obtain ⟨pre, suf, split, own⟩ := ih
      refine ⟨pre, suf ++ Forwarded.candidates y.lossy, ?_, ?_⟩
      · rw [addresses_append, addresses_singleton] at split
        rw [addresses_append, addresses_singleton, candidates_comma, ← List.append_assoc, split]
        simp only [List.append_assoc]
      · intro b member
        exact (List.mem_append.mp member).elim (own b) (behind b)

/-- What stands before a chain and trusted addresses behind it do not move the rightmost
untrusted one. -/
theorem TrustedSet.rightmost?_append {trusted : TrustedSet} {chain : List Address} {a : Address}
    (last : trusted.rightmost? chain = some a) (pre : List Address) {suf : List Address}
    (own : ∀ b ∈ suf, trusted.contains b = true) :
    trusted.rightmost? (pre ++ chain ++ suf) = some a := by
  obtain ⟨front, back, rfl, untrusted, backOwn⟩ :=
    (trusted.rightmost?_eq_some_iff chain a).mp last
  refine (trusted.rightmost?_eq_some_iff _ a).mpr ⟨pre ++ front, back ++ suf, ?_, untrusted, ?_⟩
  · simp only [List.append_assoc]
  · intro b member
    exact (List.mem_append.mp member).elim (backOwn b) (own b)

namespace Resolver

/-- **No spoofing.**  Tampered lines resolve to the same address, from the header, whoever the
peer is.  So a server that resolves clients this way gives the same status to the same question,
takes the token from the same bucket, and shows the same address to those who ask for theirs. -/
theorem resolve_tampered (r : Resolver) (header : HeaderName) (proxy : r.behindProxy = true)
    (looked : r.header = some header) (headers headers' : HeaderMap) (peer : Text) (a : Address)
    (resolved : (r.resolve headers peer).1 = ⟨a, .header⟩)
    (tampered : Tampered r.trusted (headers.all header) (headers'.all header)) :
    (∀ peer', r.resolve headers' peer' = (⟨a, .header⟩, [])) ∧
    ∀ (s : Settings) (ids : Nat → RequestId) (server : Server),
      Server.ofSettings s ids = .ok server → Resolver.ofSettings s.resolution = .ok r →
      ∀ method target from' from'' st,
        let was := server.application.handle ⟨method, target, headers, from'⟩ st
        let now := server.application.handle ⟨method, target, headers', from''⟩ st
        now.response.status = was.response.status ∧
        now.state.limiter = was.state.limiter ∧
        (target.path = "/ip".toList → method = .get → now.response.status = .ok →
          ∃ rendering, now.response.body = Resolution.render ⟨a, .header⟩ rendering) := by
  have active : r.activeHeader? = some header := by
    unfold activeHeader?
    rw [if_pos proxy, looked]
  -- whatever the peer says, both requests resolve to the rightmost untrusted address of a chain
  have last : r.trusted.rightmost? (headers.chain header.text) = some a := by
    obtain ⟨other, same, last⟩ := (resolve_fst_eq_header_iff r headers peer a).mp resolved
    rw [active] at same
    injection same with same
    rw [same]
    exact last
  have lastNow : r.trusted.rightmost? (headers'.chain header.text) = some a := by
    obtain ⟨pre, suf, split, own⟩ := addresses_of_tampered tampered
    rw [HeaderMap.chain_eq_addresses, split, ← HeaderMap.chain_eq_addresses]
    exact TrustedSet.rightmost?_append last pre own
  have client : ∀ h, r.trusted.rightmost? (h.chain header.text) = some a →
      ∀ p, (r.resolve h p).1 = ⟨a, .header⟩ := by
    intro h rightmost p
    exact (resolve_fst_eq_header_iff r h p a).mpr ⟨header, active, rightmost⟩
  constructor
  · intro peer'
    unfold resolve
    rw [active]
    dsimp only
    rw [(fromHeader_eq_ok_iff r header headers' a).mpr lastNow]
  · intro s ids server accepted made method target from' from'' st was now
    obtain ⟨r', made', rfl⟩ := (Server.ofSettings_eq_ok_iff s ids server).mp accepted
    obtain rfl : r = r' := Except.ok.inj (made.symm.trans made')
    have wasClient : r.client ⟨method, target, headers, from'⟩ = ⟨a, .header⟩ :=
      client headers last _
    have nowClient : r.client ⟨method, target, headers', from''⟩ = ⟨a, .header⟩ :=
      client headers' lastNow _
    obtain ⟨status, limiter⟩ := Server.handle_of_client s ids r
      ⟨method, target, headers, from'⟩ st ⟨method, target, headers', from''⟩ rfl rfl
      (nowClient.trans wasClient.symm)
    refine ⟨status, limiter, ?_⟩
    intro path asked good
    rw [← nowClient]
    exact Server.handle_address s ids r _ st path asked good

/-- A quote that the client never closes, half a character and an address of its own in front,
and the proxies' own addresses behind: the request still comes from `1.2.3.4`. -/
theorem resolve_tampered_openQuote :
    let name : HeaderName := ⟨"x-forwarded-for".toList, by decide, by decide⟩
    let trusted : TrustedSet := ⟨[.v4 ⟨0x0A000000#32, 8, by decide⟩]⟩
    let noted : HeaderValue := ⟨utf8 "1.2.3.4".toList, by decide⟩
    let written : HeaderValue := ⟨utf8 "6.6.6.6, for=\"[::1".toList ++ [0xE2, 0x82], by decide⟩
    let added : HeaderValue := ⟨utf8 " 10.0.0.2".toList, by decide⟩
    (resolve ⟨true, some name, trusted⟩
      ⟨[(name, written), (name, (written.comma noted).comma added)]⟩ []).1 =
        ⟨.v4 0x01020304#32, .header⟩ := by
  intro name trusted noted written added
  have own : trusted.Covers added := by
    unfold TrustedSet.Covers
    decide +kernel
  have tampered : Tampered trusted [noted] [written, (written.comma noted).comma added] :=
    .lineBefore written
      (@Tampered.textAfter trusted [noted] added [] (written.comma noted) own
        (.textBefore written .untouched))
  have resolved := (resolve_tampered ⟨true, some name, trusted⟩ name rfl rfl ⟨[(name, noted)]⟩
    ⟨[(name, written), (name, (written.comma noted).comma added)]⟩ [] (.v4 0x01020304#32)
    (by decide +kernel) tampered).1 []
  rw [resolved]

end Resolver

end ClientOrigin
