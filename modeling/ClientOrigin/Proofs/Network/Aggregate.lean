import ClientOrigin.Proofs.Network.Cover
import ClientOrigin.Trusted

/-!
# The normal form of a trusted set

The normal form holds the addresses of the networks as an operator wrote them.  Truncation is
about one block (`truncated_contains`), the cut about one range (`cover_contains`); between them
ranges are sorted and merged:

* **merging** — sorted ranges hold the same addresses after they are merged
  (`merge_holds`);
* **membership** — an address is in a trusted set exactly if its canonical form is in one of the
  networks that the set was made of (`contains_ofList_iff`).
-/

namespace ClientOrigin

/-! ## Merging -/

namespace AddressRange

/-- The range holds the address. -/
def Holds (r : AddressRange) (n : Nat) : Prop := r.first ≤ n ∧ n ≤ r.last

/-- Each range begins no later than those behind it. -/
def Sorted (ranges : List AddressRange) : Prop :=
  ranges.Pairwise fun a b => a.first ≤ b.first

/-- One step: a range and the next one that reaches it hold what their union holds. -/
theorem holds_union {current next : AddressRange} (order : current.first ≤ next.first)
    (reaches : next.first ≤ current.last + 1) (n : Nat) :
    Holds ⟨min current.first next.first, max current.last next.last⟩ n ↔
      current.Holds n ∨ next.Holds n := by
  unfold Holds
  dsimp only
  omega

/-- A merged range begins where the current one did, so the order is kept. -/
theorem sorted_mergeFrom {current next : AddressRange} {rest : List AddressRange}
    (sorted : Sorted (current :: next :: rest)) :
    Sorted (⟨min current.first next.first, max current.last next.last⟩ :: rest) := by
  obtain ⟨least, tail⟩ := List.pairwise_cons.mp sorted
  refine List.pairwise_cons.mpr ⟨fun r member => ?_, (List.pairwise_cons.mp tail).2⟩
  exact Nat.le_trans (Nat.min_le_left _ _) (least r (List.mem_cons_of_mem next member))

/-- The loop keeps the addresses as long as the ranges are sorted. -/
theorem mergeFrom_holds {current : AddressRange} {ranges : List AddressRange}
    (sorted : Sorted (current :: ranges)) (n : Nat) :
    (∃ r ∈ mergeFrom current ranges, r.Holds n) ↔ ∃ r ∈ current :: ranges, r.Holds n := by
  induction ranges generalizing current with
  | nil => rfl
  | cons next rest ih =>
      obtain ⟨least, tail⟩ := List.pairwise_cons.mp sorted
      have order : current.first ≤ next.first := least next List.mem_cons_self
      unfold mergeFrom
      by_cases reaches : next.first ≤ current.last + 1
      · rw [if_pos reaches, ih (sorted_mergeFrom sorted), List.exists_mem_cons_iff,
          List.exists_mem_cons_iff, List.exists_mem_cons_iff, holds_union order reaches, or_assoc]
      · rw [if_neg reaches, List.exists_mem_cons_iff, List.exists_mem_cons_iff, ih tail]

/-- A merged range ends where one of the ranges does. -/
theorem mergeFrom_last_lt {bound : Nat} {current : AddressRange} {ranges : List AddressRange}
    (below : ∀ r ∈ current :: ranges, r.last < bound) :
    ∀ r ∈ mergeFrom current ranges, r.last < bound := by
  induction ranges generalizing current with
  | nil => exact below
  | cons next rest ih =>
      have here : current.last < bound := below current List.mem_cons_self
      have there : next.last < bound := below next (List.mem_cons_of_mem _ List.mem_cons_self)
      have behind : ∀ r ∈ rest, r.last < bound := by
        intro r member
        exact below r (List.mem_cons_of_mem _ (List.mem_cons_of_mem _ member))
      unfold mergeFrom
      split
      · exact ih (List.forall_mem_cons.mpr ⟨Nat.max_lt.mpr ⟨here, there⟩, behind⟩)
      · exact List.forall_mem_cons.mpr ⟨here, ih (List.forall_mem_cons.mpr ⟨there, behind⟩)⟩

theorem merge_holds {ranges : List AddressRange} (sorted : Sorted ranges) (n : Nat) :
    (∃ r ∈ merge ranges, r.Holds n) ↔ ∃ r ∈ ranges, r.Holds n := by
  cases ranges with
  | nil => rfl
  | cons range rest => exact mergeFrom_holds sorted n

theorem merge_last_lt {bound : Nat} {ranges : List AddressRange}
    (below : ∀ r ∈ ranges, r.last < bound) : ∀ r ∈ merge ranges, r.last < bound := by
  cases ranges with
  | nil => exact below
  | cons range rest => exact mergeFrom_last_lt below

/-- The merged ranges of blocks end inside their family. -/
theorem merge_ofBlock_last_lt {w : Nat} (blocks : List (Block w)) :
    ∀ r ∈ merge ((blocks.map ofBlock).mergeSort le), r.last < 2 ^ w := by
  refine merge_last_lt fun r member => ?_
  obtain ⟨b, _, rfl⟩ := List.mem_map.mp (List.mem_mergeSort.mp member)
  exact b.last_lt

/-- The order of ranges sorts them by their first addresses. -/
theorem sorted_mergeSort_le (ranges : List AddressRange) :
    Sorted (ranges.mergeSort AddressRange.le) := by
  have trans : ∀ a b c : AddressRange, a.le b = true → b.le c = true → a.le c = true := by
    intro a b c
    unfold le
    simp only [decide_eq_true_eq]
    omega
  have total : ∀ a b : AddressRange, (a.le b || b.le a) = true := by
    intro a b
    unfold le
    simp only [Bool.or_eq_true, decide_eq_true_eq]
    omega
  refine (List.pairwise_mergeSort trans total ranges).imp ?_
  intro a b order
  unfold le at order
  simp only [decide_eq_true_eq] at order
  omega

end AddressRange

/-! ## Aggregation -/

/-- The normal form of some blocks holds the addresses of the blocks. -/
theorem Block.aggregate_contains {w : Nat} (blocks : List (Block w)) (a : BitVec w) :
    (∃ b ∈ Block.aggregate blocks, b.contains a = true) ↔
      ∃ b ∈ blocks, b.contains a = true := by
  have sorted := AddressRange.sorted_mergeSort_le (blocks.map AddressRange.ofBlock)
  have family := AddressRange.merge_ofBlock_last_lt blocks
  calc
    (∃ b ∈ Block.aggregate blocks, b.contains a = true)
    _ ↔ ∃ r ∈ AddressRange.merge
          ((blocks.map AddressRange.ofBlock).mergeSort AddressRange.le), r.Holds a.toNat := by
      unfold Block.aggregate
      constructor
      · rintro ⟨b, member, inside⟩
        obtain ⟨r, merged, cut⟩ := List.mem_flatMap.mp member
        exact ⟨r, merged, (cover_contains (family r merged) a).mp ⟨b, cut, inside⟩⟩
      · rintro ⟨r, merged, holds⟩
        obtain ⟨b, cut, inside⟩ := (cover_contains (family r merged) a).mpr holds
        exact ⟨b, List.mem_flatMap.mpr ⟨r, merged, cut⟩, inside⟩
    _ ↔ ∃ r ∈ (blocks.map AddressRange.ofBlock).mergeSort AddressRange.le,
          r.Holds a.toNat := AddressRange.merge_holds sorted a.toNat
    _ ↔ ∃ b ∈ blocks, b.contains a = true := by
      constructor
      · rintro ⟨r, member, holds⟩
        obtain ⟨b, listed, rfl⟩ := List.mem_map.mp (List.mem_mergeSort.mp member)
        exact ⟨b, listed, (b.contains_iff a).mpr holds⟩
      · rintro ⟨b, listed, inside⟩
        refine ⟨.ofBlock b, ?_, (b.contains_iff a).mp inside⟩
        exact List.mem_mergeSort.mpr (List.mem_map_of_mem listed)

namespace Network

section Families

variable (networks : List Network)

/-- An address of a family is in the networks exactly if it is in their blocks of this family. -/
theorem exists_contains_iff {w : Nat} {block? : Network → Option (Block w)}
    {address : BitVec w → Address}
    (meaning : ∀ n bits, Network.contains n (address bits) =
      (block? n).any fun b => b.contains bits) (bits : BitVec w) :
    (∃ n ∈ networks, n.contains (address bits) = true) ↔
      ∃ b ∈ networks.filterMap block?, b.contains bits = true := by
  constructor
  · rintro ⟨n, member, inside⟩
    rw [meaning, Option.any_eq_true] at inside
    obtain ⟨b, family, holds⟩ := inside
    exact ⟨b, List.mem_filterMap.mpr ⟨n, member, family⟩, holds⟩
  · rintro ⟨b, listed, holds⟩
    obtain ⟨n, member, family⟩ := List.mem_filterMap.mp listed
    refine ⟨n, member, ?_⟩
    rw [meaning, family]
    exact holds

theorem contains_v4 (n : Network) (bits : BitVec 32) :
    n.contains (.v4 bits) = n.v4?.any fun b => b.contains bits := by
  cases n <;> rfl

theorem contains_v6 (n : Network) (bits : BitVec 128) :
    n.contains (.v6 bits) = n.v6?.any fun b => b.contains bits := by
  cases n <;> rfl

/-- The families are aggregated on their own. -/
theorem filterMap_aggregate :
    (aggregate networks).filterMap v4? = Block.aggregate (networks.filterMap v4?) ∧
      (aggregate networks).filterMap v6? = Block.aggregate (networks.filterMap v6?) := by
  have v4_v4 : v4? ∘ Network.v4 = some := rfl
  have v4_v6 : v4? ∘ Network.v6 = fun _ => none := rfl
  have v6_v4 : v6? ∘ Network.v4 = fun _ => none := rfl
  have v6_v6 : v6? ∘ Network.v6 = some := rfl
  unfold aggregate
  rw [List.filterMap_append, List.filterMap_append, List.filterMap_map, List.filterMap_map,
    List.filterMap_map, List.filterMap_map, v4_v4, v4_v6, v6_v4, v6_v6, List.filterMap_some,
    List.filterMap_none, List.filterMap_none, List.filterMap_some, List.append_nil,
    List.nil_append]
  exact ⟨rfl, rfl⟩

/-- The normal form of some networks holds the addresses of the networks. -/
theorem aggregate_contains (a : Address) :
    (∃ n ∈ aggregate networks, n.contains a = true) ↔
      ∃ n ∈ networks, n.contains a = true := by
  obtain ⟨v4, v6⟩ := filterMap_aggregate networks
  cases a with
  | v4 bits =>
      rw [exists_contains_iff _ contains_v4, v4, Block.aggregate_contains,
        ← exists_contains_iff _ contains_v4]
  | v6 bits =>
      rw [exists_contains_iff _ contains_v6, v6, Block.aggregate_contains,
        ← exists_contains_iff _ contains_v6]

end Families

end Network

/-! ## Trusted sets -/

/-- **Normalisation keeps the meaning.**  A set of trusted networks contains an address exactly
if one of the networks, as the operator wrote them, contains its canonical form: in whatever
order they stand, with host bits or without, and however they overlap. -/
theorem TrustedSet.contains_ofList_iff (networks : List Network) (a : Address) :
    (TrustedSet.ofList networks).contains a = true ↔
      ∃ n ∈ networks, n.contains a.canonical = true := by
  unfold TrustedSet.contains TrustedSet.ofList
  rw [List.any_eq_true, Network.aggregate_contains]
  constructor
  · rintro ⟨n, member, inside⟩
    obtain ⟨written, listed, rfl⟩ := List.mem_map.mp member
    rw [Network.truncated_contains] at inside
    exact ⟨written, listed, inside⟩
  · rintro ⟨written, listed, inside⟩
    refine ⟨written.truncated, List.mem_map_of_mem listed, ?_⟩
    rw [Network.truncated_contains]
    exact inside

end ClientOrigin
