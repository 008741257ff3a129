import ClientOrigin.Proofs.Address.Canonical
import ClientOrigin.Proofs.Limit.Buckets
import ClientOrigin.Proofs.Resolve.Rightmost

/-!
# One client, one address

A client with an IPv4 address can be written in two ways.  The address of a peer and the unspecified
one are canonical; the address of a header is taken as it stands there, so it is canonical unless
the rightmost untrusted entry is IPv4-mapped (`resolve_isCanonical_iff`).  Requests of one host get
one address, and one bucket of the limiter, exactly if the addresses are both canonical or both
IPv4-mapped (`resolve_sameHost`).
-/

namespace ClientOrigin

/-- The addresses denote one host. -/
def Address.SameHost (a b : Address) : Prop := a.canonical = b.canonical

instance (a b : Address) : Decidable (a.SameHost b) := inferInstanceAs (Decidable (_ = _))

/-- A host has one canonical address and at most one other. -/
theorem Address.SameHost.eq_iff {a b : Address} (same : a.SameHost b) :
    a = b ↔ (a.IsCanonical ↔ b.IsCanonical) := by
  constructor
  · rintro rfl
    exact Iff.rfl
  · intro alike
    by_cases canonical : a.IsCanonical
    · calc a = a.canonical := canonical.symm
        _ = b.canonical := same
        _ = b := alike.mp canonical
    · obtain ⟨inner, rfl⟩ := (not_isCanonical_iff a).mp canonical
      obtain ⟨inner', rfl⟩ := (not_isCanonical_iff b).mp fun h => canonical (alike.mpr h)
      unfold SameHost at same
      rw [canonical_mappedForm, canonical_mappedForm] at same
      rw [Address.v4.inj same]

namespace Resolver

/-- The address of a peer is canonical, and so is the one that stands in for it. -/
theorem resolvePeer_isCanonical (peer : Text) : (resolvePeer peer).1.address.IsCanonical := by
  unfold resolvePeer fromPeer
  cases Endpoint.ofText? (Text.trim peer) with
  | none => exact Address.isCanonical_v4 _
  | some endpoint => exact Address.isCanonical_canonical endpoint.address

/-- The header is looked at, and the last address of its chain that is not trusted is
IPv4-mapped. -/
def GivesMapped (r : Resolver) (headers : HeaderMap) : Prop :=
  ∃ header inner, r.activeHeader? = some header ∧
    r.trusted.rightmost? (headers.chain header.text) = some (.v6 (Address.mappedForm inner))

theorem resolve_isCanonical_iff (r : Resolver) (headers : HeaderMap) (peer : Text) :
    (r.resolve headers peer).1.address.IsCanonical ↔ ¬ r.GivesMapped headers := by
  rw [resolve_fst]
  unfold GivesMapped
  cases r.activeHeader? with
  | none => simp [resolvePeer_isCanonical]
  | some header =>
      cases last : r.trusted.rightmost? (headers.chain header.text) with
      | none => simp [last, resolvePeer_isCanonical]
      | some a =>
          have written := Address.not_isCanonical_iff a
          simp [last, ← written]

/-- **One client, one address.**  A resolved address is canonical unless the header gives an
IPv4-mapped one, whatever the peer is.  Two requests of one host get one address and share a bucket
of the limiter exactly if the headers of both or of neither give an IPv4-mapped address. -/
theorem resolve_sameHost (r : Resolver) (headers headers' : HeaderMap) (peer peer' : Text) :
    let a := (r.resolve headers peer).1.address
    let a' := (r.resolve headers' peer').1.address
    (a.IsCanonical ↔ ¬ r.GivesMapped headers) ∧
      (a.SameHost a' →
        (a = a' ↔ (r.GivesMapped headers ↔ r.GivesMapped headers')) ∧
        (Limiter.SharesBucket a a' ↔ (r.GivesMapped headers ↔ r.GivesMapped headers'))) := by
  intro a a'
  have canonical := r.resolve_isCanonical_iff headers peer
  have canonical' := r.resolve_isCanonical_iff headers' peer'
  refine ⟨canonical, ?_⟩
  intro same
  have equal : a = a' ↔ (r.GivesMapped headers ↔ r.GivesMapped headers') := by
    rw [same.eq_iff, canonical, canonical', not_iff_not]
  exact ⟨equal, (Limiter.sharesBucket_iff a a').trans equal⟩

/-- Behind a proxy that writes `x-forwarded-for`. -/
def behindOneProxy : Resolver :=
  ⟨true, some ⟨"x-forwarded-for".toList, by decide, by decide⟩, .empty⟩

/-- One line of that header. -/
def forwardedFor (value : HeaderValue) : HeaderMap :=
  ⟨[(⟨"x-forwarded-for".toList, by decide, by decide⟩, value)]⟩

/-- A host in a header and, without one, as an IPv4-mapped peer. -/
theorem resolve_sameHost_peer :
    let headers := forwardedFor ⟨Text.utf8 "1.2.3.4".toList, by decide⟩
    let a := (behindOneProxy.resolve headers []).1.address
    let a' := (behindOneProxy.resolve ⟨[]⟩ "[::ffff:1.2.3.4]:80".toList).1.address
    a.SameHost a' ∧ a = a' ∧ Limiter.SharesBucket a a' := by
  intro headers a a'
  have same : a.SameHost a' := by decide +kernel
  obtain ⟨canonical, shared⟩ :=
    resolve_sameHost behindOneProxy headers ⟨[]⟩ [] "[::ffff:1.2.3.4]:80".toList
  obtain ⟨canonical', _⟩ :=
    resolve_sameHost behindOneProxy ⟨[]⟩ headers "[::ffff:1.2.3.4]:80".toList []
  have alike : behindOneProxy.GivesMapped headers ↔ behindOneProxy.GivesMapped ⟨[]⟩ :=
    iff_of_false (canonical.mp (by decide +kernel)) (canonical'.mp (by decide +kernel))
  exact ⟨same, (shared same).1.mpr alike, (shared same).2.mpr alike⟩

/-- An IPv4-mapped address of a header stays as it is, and its requests have another bucket than
those that come from the same host directly. -/
theorem resolve_mapped_ne :
    let headers := forwardedFor ⟨Text.utf8 "::ffff:1.2.3.4".toList, by decide⟩
    let a := (behindOneProxy.resolve headers "192.0.2.1:80".toList).1.address
    let a' := (behindOneProxy.resolve ⟨[]⟩ "[::ffff:1.2.3.4]:80".toList).1.address
    ¬ a.IsCanonical ∧ a.SameHost a' ∧ a ≠ a' ∧ ¬ Limiter.SharesBucket a a' := by
  intro headers a a'
  have differ : a ≠ a' := by decide +kernel
  refine ⟨by decide +kernel, by decide +kernel, differ, ?_⟩
  rw [Limiter.sharesBucket_iff]
  exact differ

end Resolver

end ClientOrigin
