import ClientOrigin.Proofs.Network.Aggregate
import ClientOrigin.Proofs.Network.Normal

/-!
# Aggregation gives the normal form

Merged ranges leave a gap between them (`merge_separate`), and each range is cut into blocks that
could not be larger (`coverFrom_fits`).  So no two blocks are the halves of one: in one range the
larger block would have been taken, and from one range to the next there is the gap.

* `aggregate_isNormal` — what aggregation gives is in normal form;
* `ofList_normalForm` — two lists of networks make one trusted set exactly if they have the same
  addresses.
-/

namespace ClientOrigin

namespace Block

/-! ## The blocks of a range -/

section Range

variable {w start last : Nat}

/-- A block of the range from `start` to `last` that has no host bits, and that is not the lower
half of another block of this range. -/
structure Fits (start last : Nat) (b : Block w) : Prop where
  truncated : b.truncated = b
  start_le : start ≤ b.base.toNat
  last_le : b.last ≤ last
  maximal : ∀ (p : Block w) (divisible : p.length < w), p.half divisible false = b → last < p.last

theorem Fits.mono {b : Block w} {later : Nat} (h : Fits later last b) (order : start ≤ later) :
    Fits start last b :=
  ⟨h.truncated, Nat.le_trans order h.start_le, h.last_le, h.maximal⟩

/-- The first block of a range is as large as its start and its end allow. -/
theorem leading_fits (below : start ≤ last) (family : last < 2 ^ w) :
    Fits start last (leading w start last) := by
  obtain ⟨first, next, room⟩ := leading_bounds w below family
  have truncated : (leading w start last).truncated = leading w start last := by
    unfold Block.truncated
    rw [first]
    rfl
  have base : (leading w start last).base.toNat = start := by
    rw [← first_of_truncated truncated, first]
  refine ⟨truncated, Nat.le_of_eq base.symm, by omega, ?_⟩
  intro p divisible lower
  have size := p.size_half divisible false
  have begins := p.half_base divisible false
  have bits : p.length + 1 = w - hostBits w start last := congrArg Block.length lower
  rw [lower, Bool.toNat_false, Nat.zero_mul, Nat.add_zero, base] at begins
  rw [size_eq (p.half divisible false)] at size
  have host : w - (p.half divisible false).length = hostBits w start last := by
    rw [lower]
    have := hostBits_le w start last
    show w - (w - hostBits w start last) = _
    omega
  rw [host, ← Nat.pow_succ'] at size
  -- the start is aligned for the larger block, so it is the end that does not allow it
  have zeros : hostBits w start last + 1 ≤ trailingZeros w start := by
    rw [le_trailingZeros_iff (by omega), ← size, begins]
    exact Nat.dvd_mul_left _ _
  refine Nat.lt_of_not_le fun fits => ?_
  unfold Block.last at fits
  have pos := p.size_pos
  have count : hostBits w start last + 1 ≤ Nat.log2 (last - start + 1) := by
    rw [Nat.le_log2 (by omega), ← size]
    omega
  have largest : hostBits w start last =
      min (Nat.log2 (last - start + 1)) (trailingZeros w start) :=
    rfl
  omega

/-- Every block of the cut fits, and it ends before the next one begins. -/
theorem coverFrom_fits (family : last < 2 ^ w) (fuel start : Nat) :
    (∀ b ∈ coverFrom w last fuel start, Fits start last b) ∧
      (coverFrom w last fuel start).Pairwise fun a b => a.last < b.base.toNat := by
  induction fuel generalizing start with
  | zero => exact ⟨fun b impossible => absurd impossible List.not_mem_nil, .nil⟩
  | succ fuel ih =>
      rcases Nat.lt_or_ge last start with above | below
      · rw [coverFrom_of_lt (fuel + 1) above]
        exact ⟨fun b impossible => absurd impossible List.not_mem_nil, .nil⟩
      · obtain ⟨fits, separate⟩ := ih ((leading w start last).last + 1)
        obtain ⟨_, next, _⟩ := leading_bounds w below family
        have pos : 0 < 2 ^ hostBits w start last := Nat.two_pow_pos _
        rw [coverFrom_succ fuel below]
        constructor
        · refine List.forall_mem_cons.mpr ⟨leading_fits below family, fun b member => ?_⟩
          exact (fits b member).mono (by omega)
        · refine List.pairwise_cons.mpr ⟨fun b member => ?_, separate⟩
          exact (fits b member).start_le

end Range

end Block

/-! ## Merged ranges -/

namespace AddressRange

/-- There is an address between the ranges. -/
def Before (a b : AddressRange) : Prop := a.last + 1 < b.first

/-- Merging begins no range before the first one. -/
theorem mergeFrom_first_le {current : AddressRange} {ranges : List AddressRange}
    (sorted : Sorted (current :: ranges)) :
    ∀ r ∈ mergeFrom current ranges, current.first ≤ r.first := by
  induction ranges generalizing current with
  | nil => exact fun r member => Nat.le_of_eq (by rw [List.mem_singleton.mp member])
  | cons next rest ih =>
      obtain ⟨least, tail⟩ := List.pairwise_cons.mp sorted
      have order : current.first ≤ next.first := least next List.mem_cons_self
      unfold mergeFrom
      split
      · intro r member
        exact Nat.le_trans (Nat.le_min.mpr ⟨Nat.le_refl _, order⟩)
          (ih (sorted_mergeFrom sorted) r member)
      · refine List.forall_mem_cons.mpr ⟨Nat.le_refl _, fun r member => ?_⟩
        exact Nat.le_trans order (ih tail r member)

/-- Ranges that touch have been merged, so a gap is left between those that remain. -/
theorem mergeFrom_separate {current : AddressRange} {ranges : List AddressRange}
    (sorted : Sorted (current :: ranges)) : (mergeFrom current ranges).Pairwise Before := by
  induction ranges generalizing current with
  | nil => exact List.pairwise_singleton _ _
  | cons next rest ih =>
      unfold mergeFrom
      split
      · exact ih (sorted_mergeFrom sorted)
      · next apart =>
        have tail := (List.pairwise_cons.mp sorted).2
        refine List.pairwise_cons.mpr ⟨fun r member => ?_, ih tail⟩
        exact Nat.lt_of_lt_of_le (Nat.lt_of_not_le apart) (mergeFrom_first_le tail r member)

theorem merge_separate {ranges : List AddressRange} (sorted : Sorted ranges) :
    (merge ranges).Pairwise Before := by
  cases ranges with
  | nil => exact .nil
  | cons range rest => exact mergeFrom_separate sorted

end AddressRange

/-! ## Aggregation -/

namespace Block

variable {w : Nat}

/-- Blocks that end before the next one begins do not meet. -/
theorem eq_of_meets {blocks : List (Block w)} (truncated : ∀ b ∈ blocks, b.truncated = b)
    (order : blocks.Pairwise fun a b => a.last < b.base.toNat) :
    ∀ a ∈ blocks, ∀ b ∈ blocks, ∀ x, a.contains x = true → b.contains x = true → a = b := by
  have apart : blocks.Pairwise fun a b => ∀ x, a.contains x = true → b.contains x = false := by
    refine order.imp_of_mem fun {a b} _ member before x ina => ?_
    have low := ((a.contains_iff x).mp ina).2
    refine Bool.eq_false_iff.mpr fun inb => ?_
    have high := ((b.contains_iff x).mp inb).1
    rw [first_of_truncated (truncated b member)] at high
    omega
  refine List.Pairwise.forall_of_forall_of_flip (fun a _ x _ _ => rfl) (apart.imp ?_) (apart.imp ?_)
  · intro a b apart x ina inb
    exact absurd inb (Bool.eq_false_iff.mp (apart x ina))
  · intro a b apart x inb ina
    exact absurd inb (Bool.eq_false_iff.mp (apart x ina))

/-- The halves of a block are next to each other, so they are in no two separate ranges; and in
one range the block itself would have been taken. -/
theorem not_fits_halves {a b : AddressRange} (apart : a = b ∨ a.Before b ∨ b.Before a)
    {p : Block w} {divisible : p.length < w} (lower : Fits a.first a.last (p.half divisible false))
    (upper : Fits b.first b.last (p.half divisible true)) : False := by
  have size := p.size_half divisible false
  have sameSize : (p.half divisible true).size = (p.half divisible false).size := rfl
  have pos := (p.half divisible false).size_pos
  have lowerFirst := p.half_first divisible false
  have upperFirst := p.half_first divisible true
  have lowerBase := first_of_truncated lower.truncated
  have upperBase := first_of_truncated upper.truncated
  have := lower.start_le
  have := lower.last_le
  have := upper.start_le
  have := upper.last_le
  have larger := lower.maximal p divisible rfl
  unfold Block.last at *
  unfold AddressRange.Before at apart
  rw [Bool.toNat_false, Nat.zero_mul] at lowerFirst
  rw [Bool.toNat_true, Nat.one_mul] at upperFirst
  rcases apart with rfl | before | after
  · omega
  · omega
  · omega

/-- The blocks of separate ranges are in normal form. -/
theorem flatMap_cover_isNormal {ranges : List AddressRange}
    (separate : ranges.Pairwise AddressRange.Before) (family : ∀ r ∈ ranges, r.last < 2 ^ w) :
    IsNormal (ranges.flatMap (cover w)) := by
  have cut : ∀ r ∈ ranges, _ := fun r member => coverFrom_fits (family r member) (2 * w + 1) r.first
  have fits : ∀ b ∈ ranges.flatMap (cover w), ∃ r ∈ ranges, Fits r.first r.last b := by
    intro b member
    obtain ⟨r, listed, here⟩ := List.mem_flatMap.mp member
    exact ⟨r, listed, (cut r listed).1 b here⟩
  have truncated : ∀ b ∈ ranges.flatMap (cover w), b.truncated = b := by
    intro b member
    obtain ⟨r, _, fit⟩ := fits b member
    exact fit.truncated
  have order : (ranges.flatMap (cover w)).Pairwise fun a b => a.last < b.base.toNat := by
    refine List.pairwise_flatMap.mpr ⟨fun r member => (cut r member).2, ?_⟩
    refine separate.imp_of_mem fun {r r'} member member' apart x here y there => ?_
    have := ((cut r member).1 x here).last_le
    have := ((cut r' member').1 y there).start_le
    unfold AddressRange.Before at apart
    omega
  refine ⟨order.imp fun {a b} before => ?_, truncated, eq_of_meets truncated order, ?_⟩
  · have := ((a.contains_iff a.base).mp a.contains_base).2
    exact BitVec.lt_def.mpr (Nat.lt_of_le_of_lt this before)
  · rintro p divisible ⟨lower, upper⟩
    obtain ⟨a, listed, lowerFits⟩ := fits _ lower
    obtain ⟨b, listed', upperFits⟩ := fits _ upper
    have apart : ∀ ⦃a⦄, a ∈ ranges → ∀ ⦃b⦄, b ∈ ranges → a = b ∨ a.Before b ∨ b.Before a :=
      List.Pairwise.forall_of_forall_of_flip (fun a _ => .inl rfl)
        (separate.imp fun before => .inr (.inl before))
        (separate.imp fun after => .inr (.inr after))
    exact not_fits_halves (apart listed listed') lowerFits upperFits

/-- What aggregation gives is in normal form. -/
theorem aggregate_isNormal (blocks : List (Block w)) : IsNormal (Block.aggregate blocks) := by
  refine flatMap_cover_isNormal
    (AddressRange.merge_separate (AddressRange.sorted_mergeSort_le _)) ?_
  exact AddressRange.merge_ofBlock_last_lt blocks

/-- Blocks with the same addresses have one normal form. -/
theorem aggregate_eq_iff (blocks others : List (Block w)) :
    Block.aggregate blocks = Block.aggregate others ↔
      ∀ x, (∃ b ∈ blocks, b.contains x = true) ↔ ∃ b ∈ others, b.contains x = true := by
  constructor
  · intro equal x
    rw [← aggregate_contains, equal, aggregate_contains]
  · intro same
    refine (aggregate_isNormal blocks).eq_of_same (aggregate_isNormal others) fun x => ?_
    rw [aggregate_contains, aggregate_contains, same]

end Block

/-! ## Trusted sets -/

namespace Network

/-- Networks with the same addresses have one normal form. -/
theorem aggregate_eq_iff (networks others : List Network) :
    aggregate networks = aggregate others ↔
      ∀ a, (∃ n ∈ networks, n.contains a = true) ↔ ∃ n ∈ others, n.contains a = true := by
  constructor
  · intro equal a
    rw [← aggregate_contains, equal, aggregate_contains]
  · intro same
    have v4 : Block.aggregate (networks.filterMap v4?) =
        Block.aggregate (others.filterMap v4?) := by
      rw [Block.aggregate_eq_iff]
      intro bits
      rw [← exists_contains_iff _ contains_v4, ← exists_contains_iff _ contains_v4, same]
    have v6 : Block.aggregate (networks.filterMap v6?) =
        Block.aggregate (others.filterMap v6?) := by
      rw [Block.aggregate_eq_iff]
      intro bits
      rw [← exists_contains_iff _ contains_v6, ← exists_contains_iff _ contains_v6, same]
    unfold aggregate
    rw [v4, v6]

/-- Host bits do not matter in a list of networks. -/
theorem exists_truncated_contains (networks : List Network) (a : Address) :
    (∃ n ∈ networks.map truncated, n.contains a = true) ↔
      ∃ n ∈ networks, n.contains a = true := by
  simp [truncated_contains]

end Network

namespace TrustedSet

/-- IPv4 networks before IPv6 ones, and each family in normal form. -/
def IsNormal (t : TrustedSet) : Prop :=
  ∃ v4 v6, t.networks = v4.map .v4 ++ v6.map .v6 ∧ Block.IsNormal v4 ∧ Block.IsNormal v6

/-- Lists of networks make one set exactly if they have the same addresses. -/
theorem ofList_eq_iff (networks others : List Network) :
    ofList networks = ofList others ↔
      ∀ a, (∃ n ∈ networks, n.contains a = true) ↔ ∃ n ∈ others, n.contains a = true := by
  unfold ofList
  rw [TrustedSet.mk.injEq, Network.aggregate_eq_iff]
  simp only [Network.exists_truncated_contains]

/-- **Normal form.**  The networks of a trusted set are IPv4 before IPv6 ones, each family sorted,
without host bits, without two that meet and without two halves of one network.  Two lists make
one set exactly if they have the same addresses, in whatever order, with whatever host bits and
however often they name them; so the normal form of a normal form is itself. -/
theorem ofList_normalForm (networks : List Network) :
    (ofList networks).IsNormal ∧
    (∀ others, ofList networks = ofList others ↔
      ∀ a, (∃ n ∈ networks, n.contains a = true) ↔ ∃ n ∈ others, n.contains a = true) ∧
    ofList (ofList networks).networks = ofList networks := by
  refine ⟨⟨_, _, rfl, Block.aggregate_isNormal _, Block.aggregate_isNormal _⟩,
    ofList_eq_iff networks, ?_⟩
  rw [ofList_eq_iff]
  intro a
  show (∃ n ∈ Network.aggregate (networks.map Network.truncated), _) ↔ _
  rw [Network.aggregate_contains, Network.exists_truncated_contains]

end TrustedSet

end ClientOrigin
