import ClientOrigin.Address.Basic

/-!
# Canonical addresses

An IPv4 host has one canonical address.  Every other address of it is IPv4-mapped
(`not_isCanonical_iff`), and its canonical form is the IPv4 address that it carries
(`canonical_mappedForm`).
-/

namespace ClientOrigin.Address

theorem mapped?_eq_some_iff (bits : BitVec 128) (inner : BitVec 32) :
    mapped? bits = some inner ↔ bits = mappedForm inner := by
  have small := inner.isLt
  unfold mapped? mappedForm
  rw [Nat.shiftRight_eq_div_pow]
  constructor
  · intro found
    split at found
    · next prefixed =>
        have low := congrArg BitVec.toNat (Option.some.inj found)
        rw [BitVec.toNat_ofNat] at low
        apply BitVec.eq_of_toNat_eq
        rw [BitVec.toNat_ofNat]
        omega
    · simp at found
  · rintro rfl
    rw [BitVec.toNat_ofNat]
    rw [if_pos (by omega), Option.some.injEq]
    apply BitVec.eq_of_toNat_eq
    rw [BitVec.toNat_ofNat]
    omega

theorem canonical_mappedForm (inner : BitVec 32) :
    canonical (.v6 (mappedForm inner)) = .v4 inner := by
  simp [canonical, (mapped?_eq_some_iff (mappedForm inner) inner).mpr rfl]

theorem isCanonical_v4 (bits : BitVec 32) : IsCanonical (.v4 bits) := rfl

theorem isCanonical_v6_iff (bits : BitVec 128) :
    IsCanonical (.v6 bits) ↔ mapped? bits = none := by
  unfold IsCanonical canonical
  cases found : mapped? bits with
  | none => simp [found]
  | some inner => simp [found]

/-- Only IPv4-mapped addresses are not canonical. -/
theorem not_isCanonical_iff (a : Address) :
    ¬ a.IsCanonical ↔ ∃ inner, a = .v6 (mappedForm inner) := by
  cases a with
  | v4 bits => simp [isCanonical_v4]
  | v6 bits =>
      rw [isCanonical_v6_iff, ← Ne, Option.ne_none_iff_exists']
      simp [mapped?_eq_some_iff]

theorem isCanonical_canonical (a : Address) : a.canonical.IsCanonical := by
  cases a with
  | v4 bits => exact isCanonical_v4 bits
  | v6 bits =>
      cases found : mapped? bits with
      | none =>
          have own : IsCanonical (.v6 bits) := (isCanonical_v6_iff bits).mpr found
          rw [own]
          exact own
      | some inner =>
          rw [(mapped?_eq_some_iff bits inner).mp found, canonical_mappedForm]
          exact isCanonical_v4 inner

end ClientOrigin.Address
