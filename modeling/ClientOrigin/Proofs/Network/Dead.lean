import ClientOrigin.Proofs.Address.Canonical
import ClientOrigin.Proofs.Network.NormalForm

/-!
# Networks that match nothing

An address is looked up in its canonical form, and networks are kept as they are written.  An
IPv4-mapped address is therefore looked up among the IPv4 networks only, whatever IPv6 networks
hold it as it is written.

* `mapped_contains_iff` — the IPv4-mapped addresses are one block, of 96 bits;
* `isDead_iff` — a network makes no difference exactly if it lies in this block: a shorter one
  that meets the block holds the block next to it too;
* `TrustedSet.ofList_trusts` — every other address of a network is trusted.
-/

namespace ClientOrigin

/-! ## The block of IPv4-mapped addresses -/

namespace Block

/-- The block `::ffff:0:0/96`. -/
def mapped : Block 128 := ⟨Address.mappedForm 0#32, 96, by decide⟩

theorem mapped_contains_iff_div (bits : BitVec 128) :
    mapped.contains bits = true ↔ bits.toNat / 2 ^ 32 = 0xFFFF := by
  have size : mapped.size = 2 ^ 32 := mapped.size_eq
  have base : mapped.base.toNat / 2 ^ 32 = 0xFFFF := by decide
  rw [contains_iff_div, size, base]

/-- The addresses of the block are those that are looked up in another form. -/
theorem mapped_contains_iff (bits : BitVec 128) :
    mapped.contains bits = true ↔ ¬ (Address.v6 bits).IsCanonical := by
  rw [mapped_contains_iff_div, Address.isCanonical_v6_iff]
  unfold Address.mapped?
  rw [Nat.shiftRight_eq_div_pow, ite_eq_right_iff]
  constructor
  · intro leading canonical
    exact nomatch canonical leading
  · intro different
    by_contra other
    exact different fun leading => absurd leading other

/-- No canonical form lies in the block. -/
theorem not_mapped_of_canonical {a : Address} {bits : BitVec 128}
    (form : a.canonical = .v6 bits) : mapped.contains bits = false := by
  have canonical : (Address.v6 bits).IsCanonical := by
    rw [← form]
    exact a.isCanonical_canonical
  exact Bool.eq_false_iff.mpr fun inside => (mapped_contains_iff bits).mp inside canonical

/-- A block with fewer bits in common that holds an IPv4-mapped address holds one that is not
mapped. -/
theorem exists_not_mapped {b : Block 128} (short : b.length < 96)
    (meets : mapped.contains b.base = true) :
    ∃ bits, b.contains bits = true ∧ mapped.contains bits = false := by
  rw [mapped_contains_iff_div] at meets
  -- the same place in the block before, which shares 95 bits with this one
  let before : BitVec 128 := BitVec.ofNat 128 (b.base.toNat - 2 ^ 32)
  let pair : Block 128 := ⟨b.base, 95, by decide⟩
  have value : before.toNat = b.base.toNat - 2 ^ 32 := by
    have small := b.base.isLt
    rw [BitVec.toNat_ofNat]
    exact Nat.mod_eq_of_lt (by omega)
  have together : pair.contains before = true := by
    have size : pair.size = 2 ^ 33 := pair.size_eq
    have own : pair.base = b.base := rfl
    rw [contains_iff_div, size, own, value]
    omega
  refine ⟨before, ?_, Bool.eq_false_iff.mpr fun inside => ?_⟩
  · have coarser : b.length ≤ pair.length := Nat.le_of_lt_succ short
    exact contains_of_coarser coarser pair.contains_base together b.contains_base
  · rw [mapped_contains_iff_div, value] at inside
    omega

end Block

/-! ## Networks that make no difference -/

namespace TrustedSet

/-- The set looks an address up in the networks that it was made of. -/
theorem contains_ofList (networks : List Network) (a : Address) :
    (ofList networks).contains a = networks.any fun n => n.contains a.canonical := by
  unfold contains ofList
  rw [Bool.eq_iff_iff, List.any_eq_true, List.any_eq_true, Network.aggregate_contains,
    Network.exists_truncated_contains]

end TrustedSet

namespace Network

/-- The network does not change which addresses are trusted, whatever the others are. -/
def IsDead (n : Network) : Prop :=
  ∀ others a, (TrustedSet.ofList (n :: others)).contains a = (TrustedSet.ofList others).contains a

/-- A network makes a difference if it holds the canonical form of an address. -/
theorem isDead_iff_contains (n : Network) :
    n.IsDead ↔ ∀ a : Address, n.contains a.canonical = false := by
  constructor
  · intro dead a
    refine Bool.eq_false_iff.mpr fun inside => ?_
    have same := dead [] a
    rw [TrustedSet.contains_ofList, TrustedSet.contains_ofList, List.any_cons, inside] at same
    exact nomatch same
  · intro outside others a
    rw [TrustedSet.contains_ofList, TrustedSet.contains_ofList, List.any_cons, outside a,
      Bool.false_or]

/-- Dead are the IPv6 networks inside `::ffff:0:0/96` and no others. -/
theorem isDead_iff (n : Network) :
    n.IsDead ↔ ∃ b, n = .v6 b ∧ 96 ≤ b.length ∧ Block.mapped.contains b.base = true := by
  rw [isDead_iff_contains]
  constructor
  · intro outside
    cases n with
    | v4 b =>
        have unseen : b.contains b.base = false := outside (.v4 b.base)
        rw [b.contains_base] at unseen
        exact nomatch unseen
    | v6 b =>
        -- an address of the block that is not mapped is looked up as it is written
        have onlyMapped (bits : BitVec 128) (inside : b.contains bits = true) :
            Block.mapped.contains bits = true := by
          refine (Block.mapped_contains_iff bits).mpr fun canonical => ?_
          have unseen : (Network.v6 b).contains (Address.v6 bits).canonical = false :=
            outside (.v6 bits)
          rw [canonical] at unseen
          exact absurd inside (Bool.eq_false_iff.mp unseen)
        have base : Block.mapped.contains b.base = true := onlyMapped b.base b.contains_base
        refine ⟨b, rfl, Nat.le_of_not_lt fun short => ?_, base⟩
        obtain ⟨bits, inside, other⟩ := Block.exists_not_mapped short base
        rw [onlyMapped bits inside] at other
        exact nomatch other
  · rintro ⟨b, rfl, long, base⟩ a
    cases form : a.canonical with
    | v4 bits => rfl
    | v6 bits =>
        refine Bool.eq_false_iff.mpr fun inside => ?_
        have meets : Block.mapped.contains bits = true :=
          Block.contains_of_coarser long b.contains_base inside base
        rw [Block.not_mapped_of_canonical form] at meets
        exact nomatch meets

end Network

/-! ## Trusted addresses -/

namespace TrustedSet

/-- What is trusted is dropped from a chain. -/
theorem mem_untrusted_iff (t : TrustedSet) (candidates : List Address) (a : Address) :
    a ∈ t.untrusted candidates ↔ a ∈ candidates ∧ t.contains a = false := by
  unfold untrusted
  rw [List.mem_filter, Bool.not_eq_true']

/-- **Networks match as they are written, hosts in one form.**  Every address of a network of the
list that is not IPv4-mapped is trusted and dropped from every chain.  An IPv4-mapped address is
trusted exactly if an IPv4 network of the list holds the address that it carries, whatever IPv6
networks hold the address as it is written; otherwise it stays in the chain.  So the networks that
make no difference are those inside `::ffff:0:0/96`. -/
theorem ofList_trusts (networks : List Network) :
    (∀ n ∈ networks, ∀ a, n.contains a = true → a.IsCanonical →
      (ofList networks).contains a = true ∧
        ∀ candidates, a ∉ (ofList networks).untrusted candidates) ∧
    (∀ inner candidates,
      ((ofList networks).contains (.v6 (Address.mappedForm inner)) = true ↔
        ∃ b, Network.v4 b ∈ networks ∧ b.contains inner = true) ∧
      (.v6 (Address.mappedForm inner) ∈ (ofList networks).untrusted candidates ↔
        .v6 (Address.mappedForm inner) ∈ candidates ∧
          ∀ b, Network.v4 b ∈ networks → b.contains inner = false)) ∧
    (∀ n : Network, n.IsDead ↔
      ∃ b, n = .v6 b ∧ 96 ≤ b.length ∧ Block.mapped.contains b.base = true) := by
  have mapped : ∀ inner, (ofList networks).contains (.v6 (Address.mappedForm inner)) = true ↔
      ∃ b, Network.v4 b ∈ networks ∧ b.contains inner = true := by
    intro inner
    rw [contains_ofList, Address.canonical_mappedForm, List.any_eq_true]
    constructor
    · rintro ⟨n, listed, inside⟩
      cases n with
      | v4 b => exact ⟨b, listed, inside⟩
      | v6 b => exact nomatch inside
    · rintro ⟨b, listed, inside⟩
      exact ⟨.v4 b, listed, inside⟩
  refine ⟨fun n listed a inside canonical => ?_, fun inner candidates => ⟨mapped inner, ?_⟩,
    Network.isDead_iff⟩
  · have trusted : (ofList networks).contains a = true := by
      rw [contains_ofList, canonical]
      exact List.any_eq_true.mpr ⟨n, listed, inside⟩
    refine ⟨trusted, fun candidates kept => ?_⟩
    rw [mem_untrusted_iff, trusted] at kept
    exact nomatch kept.2
  · rw [mem_untrusted_iff, Bool.eq_false_iff, Ne, mapped]
    simp

/-- Two hosts of three networks: `fd12::1` is in `fd00::/8`, and `::ffff:10.1.1.1` is trusted
because of `10.0.0.0/8`, which `::ffff:0:0/96` does not add to. -/
theorem ofList_trusts_private :
    let private4 : Block 32 := ⟨0x0A000000#32, 8, by decide⟩
    let private6 : Block 128 := ⟨BitVec.ofNat 128 (0xFD <<< 120), 8, by decide⟩
    let set := ofList [.v6 Block.mapped, .v6 private6, .v4 private4]
    set.contains (.v6 (BitVec.ofNat 128 (0xFD12 <<< 112 + 1))) = true ∧
      set.contains (.v6 (Address.mappedForm 0x0A010101#32)) = true ∧
      (Network.v6 Block.mapped).IsDead ∧ ¬ (Network.v6 private6).IsDead := by
  intro private4 private6 set
  obtain ⟨asWritten, mapped, dead⟩ :=
    ofList_trusts [.v6 Block.mapped, .v6 private6, .v4 private4]
  have listed : Network.v6 private6 ∈ [.v6 Block.mapped, .v6 private6, .v4 private4] := by simp
  refine ⟨?_, ?_, ?_, ?_⟩
  · exact (asWritten (.v6 private6) listed _ (by decide) (by decide)).1
  · exact ((mapped 0x0A010101#32 []).1).mpr ⟨private4, by simp, by decide⟩
  · exact (dead _).mpr ⟨Block.mapped, rfl, Nat.le_refl 96, Block.mapped.contains_base⟩
  · intro impossible
    obtain ⟨b, own, long, _⟩ := (dead _).mp impossible
    obtain rfl := Network.v6.inj own
    exact absurd long (by decide)

/-- The address `::ffff:1.2.3.4` lies in `::ffff:0:0/96` and in `::/0`, and neither network makes
it trusted or drops it from a chain. -/
theorem mapped_not_trusted :
    let a : Address := .v6 (Address.mappedForm 0x01020304#32)
    let mapped : Network := .v6 Block.mapped
    let all : Network := .v6 ⟨0#128, 0, by decide⟩
    (mapped.contains a = true ∧ (ofList [mapped]).contains a = false ∧
        (ofList [mapped]).untrusted [a] = [a]) ∧
      all.contains a = true ∧ (ofList [all]).contains a = false ∧
        (ofList [all]).untrusted [a] = [a] := by
  decide +kernel

end TrustedSet

end ClientOrigin
