import ClientOrigin.Proofs.Network.Block

/-!
# Blocks in normal form

A list of blocks is in normal form if it is sorted, no block has host bits, no two blocks meet,
and no two are the halves of one block.  Such a list is determined by its addresses.

* `contains_of_coarser` — a block does not separate two addresses of a smaller one;
* `exists_coarser` — what a normal list holds whole lies in one of its blocks, by induction on
  the number of host bits: two halves in different blocks would have to be these blocks;
* `IsNormal.eq_of_same` — so two normal lists with the same addresses have the same blocks.
-/

namespace ClientOrigin

namespace Block

variable {w : Nat}

/-! ## Larger and smaller blocks -/

theorem contains_base (b : Block w) : b.contains b.base = true :=
  (b.contains_iff_div b.base).mpr rfl

theorem size_dvd_size {a b : Block w} (coarser : a.length ≤ b.length) : b.size ∣ a.size := by
  rw [size_eq, size_eq]
  exact Nat.pow_dvd_pow 2 (Nat.sub_le_sub_left coarser w)

/-- A block that holds one address of a smaller block holds all of them. -/
theorem contains_of_coarser {a b : Block w} (coarser : a.length ≤ b.length) {x y : BitVec w}
    (inx : b.contains x = true) (iny : b.contains y = true) (meets : a.contains x = true) :
    a.contains y = true := by
  rw [contains_iff_div] at *
  obtain ⟨k, size⟩ := size_dvd_size coarser
  rw [← meets, size, ← Nat.div_div_eq_div_mul, ← Nat.div_div_eq_div_mul, inx, iny]

/-- A block without host bits begins at its base. -/
theorem first_of_truncated {b : Block w} (aligned : b.truncated = b) : b.first = b.base.toNat := by
  rw [← truncated_base, aligned]

theorem truncated_of_dvd {b : Block w} (aligned : b.size ∣ b.base.toNat) : b.truncated = b := by
  unfold truncated
  rw [first_of_dvd b aligned, BitVec.ofNat_toNat, BitVec.setWidth_eq]

/-- Blocks of one size without host bits do not overlap. -/
theorem eq_of_contains_base {a b : Block w} (alignedA : a.truncated = a)
    (alignedB : b.truncated = b) (same : a.length = b.length) (meets : a.contains b.base = true) :
    a = b := by
  have size : a.size = b.size := by rw [size_eq, size_eq, same]
  rw [contains_iff_div] at meets
  have base : b.base.toNat = a.base.toNat := by
    rw [← first_of_truncated alignedA, ← first_of_truncated alignedB]
    unfold first
    rw [← meets, size]
  cases a
  cases b
  simp_all [BitVec.toNat_inj]

/-! ## Halves -/

/-- The lower or the upper half of a block. -/
def half (b : Block w) (divisible : b.length < w) (upper : Bool) : Block w :=
  ⟨BitVec.ofNat w (b.first + upper.toNat * (b.size / 2)), b.length + 1, divisible⟩

section Half

variable (b : Block w) (divisible : b.length < w) (upper : Bool)

theorem size_half : b.size = 2 * (b.half divisible upper).size := by
  have bits : w - b.length = w - (b.length + 1) + 1 := by omega
  rw [size_eq, size_eq, bits, Nat.pow_succ']
  rfl

theorem half_base :
    (b.half divisible upper).base.toNat =
      b.first + upper.toNat * (b.half divisible upper).size := by
  have size := b.size_half divisible upper
  have pos := (b.half divisible upper).size_pos
  have inFamily := b.last_lt
  have below : upper.toNat * (b.half divisible upper).size ≤ (b.half divisible upper).size := by
    cases upper <;> simp
  have inner : b.size / 2 = (b.half divisible upper).size := by omega
  unfold last at inFamily
  show (b.first + upper.toNat * (b.size / 2)) % 2 ^ w = _
  rw [inner]
  exact Nat.mod_eq_of_lt (by omega)

theorem half_truncated : (b.half divisible upper).truncated = b.half divisible upper := by
  refine truncated_of_dvd ?_
  rw [half_base]
  refine Nat.dvd_add ?_ (Nat.dvd_mul_left _ _)
  exact Nat.dvd_trans ⟨2, by rw [b.size_half divisible upper, Nat.mul_comm]⟩ (Nat.dvd_mul_left _ _)

theorem half_first :
    (b.half divisible upper).first =
      b.first + upper.toNat * (b.half divisible upper).size := by
  rw [first_of_truncated (b.half_truncated divisible upper), half_base]

theorem contains_half_base : b.contains (b.half divisible upper).base = true := by
  have size := b.size_half divisible upper
  have pos := (b.half divisible upper).size_pos
  have below : upper.toNat * (b.half divisible upper).size ≤ (b.half divisible upper).size := by
    cases upper <;> simp
  rw [contains_iff, half_base]
  unfold last
  omega

/-- A half holds addresses of the block only. -/
theorem contains_of_half {x : BitVec w} (inside : (b.half divisible upper).contains x = true) :
    b.contains x = true :=
  contains_of_coarser (Nat.le_succ b.length) (contains_base _) inside
    (b.contains_half_base divisible upper)

end Half

/-! ## Normal form -/

/-- A sorted list of blocks without host bits, of which no two meet and no two are the halves of
one block. -/
structure IsNormal (blocks : List (Block w)) : Prop where
  ascending : blocks.Pairwise fun a b => a.base < b.base
  truncated : ∀ b ∈ blocks, b.truncated = b
  disjoint : ∀ a ∈ blocks, ∀ b ∈ blocks, ∀ x, a.contains x = true → b.contains x = true → a = b
  halves : ∀ (b : Block w) (divisible : b.length < w),
    ¬ (b.half divisible false ∈ blocks ∧ b.half divisible true ∈ blocks)

section Normal

variable {blocks others : List (Block w)}

/-- What a normal list holds whole lies in one of its blocks. -/
theorem exists_coarser (normal : IsNormal blocks) (c : Block w) (truncated : c.truncated = c)
    (whole : ∀ x, c.contains x = true → ∃ b ∈ blocks, b.contains x = true) :
    ∃ b ∈ blocks, b.length ≤ c.length ∧ b.contains c.base = true := by
  induction count : w - c.length generalizing c with
  | zero =>
      obtain ⟨b, member, inside⟩ := whole c.base c.contains_base
      have := b.length_le
      exact ⟨b, member, by omega, inside⟩
  | succ bits ih =>
      have divisible : c.length < w := by omega
      -- each half lies in a block; one that is larger than the half holds all of `c`
      have halved : ∀ upper, c.half divisible upper ∈ blocks ∨
          ∃ b ∈ blocks, b.length ≤ c.length ∧ b.contains c.base = true := by
        intro upper
        obtain ⟨b, member, coarser, inside⟩ := ih (c.half divisible upper)
          (c.half_truncated divisible upper)
          (fun x inside => whole x (c.contains_of_half divisible upper inside))
          (by show w - (c.length + 1) = bits; omega)
        rcases Nat.lt_or_ge c.length b.length with finer | coarser'
        · refine .inl ?_
          have same : b.length = (c.half divisible upper).length := Nat.le_antisymm coarser finer
          rw [← eq_of_contains_base (normal.truncated b member)
            (c.half_truncated divisible upper) same inside]
          exact member
        · exact .inr ⟨b, member, coarser',
            contains_of_coarser coarser' (c.contains_half_base divisible upper) c.contains_base
              inside⟩
      rcases halved false with lower | found
      · rcases halved true with upper | found
        · exact absurd ⟨lower, upper⟩ (normal.halves c divisible)
        · exact found
      · exact found

theorem IsNormal.subset_of_same (normal : IsNormal blocks) (normal' : IsNormal others)
    (same : ∀ x, (∃ b ∈ blocks, b.contains x = true) ↔ ∃ b ∈ others, b.contains x = true) :
    blocks ⊆ others := by
  intro b member
  obtain ⟨c, listed, coarser, inside⟩ := exists_coarser normal' b (normal.truncated b member)
    fun x inside => (same x).mp ⟨b, member, inside⟩
  obtain ⟨d, member', coarser', inside'⟩ := exists_coarser normal c (normal'.truncated c listed)
    fun x inside => (same x).mpr ⟨c, listed, inside⟩
  -- `b` lies in `c` and `c` in `d`, so `b` meets `d`, and all three are one block
  have meets : d.contains b.base = true :=
    contains_of_coarser coarser' c.contains_base inside inside'
  obtain rfl : d = b := normal.disjoint d member' b member b.base meets b.contains_base
  rw [← eq_of_contains_base (normal'.truncated c listed) (normal.truncated d member)
    (Nat.le_antisymm coarser coarser') inside]
  exact listed

/-- **Uniqueness.**  Normal lists with the same addresses are one list. -/
theorem IsNormal.eq_of_same (normal : IsNormal blocks) (normal' : IsNormal others)
    (same : ∀ x, (∃ b ∈ blocks, b.contains x = true) ↔ ∃ b ∈ others, b.contains x = true) :
    blocks = others := by
  have nodup : ∀ {list : List (Block w)}, IsNormal list → list.Nodup := by
    intro list normal
    refine normal.ascending.imp ?_
    rintro a b less rfl
    exact absurd less (BitVec.lt_irrefl _)
  have members : blocks.Perm others := by
    rw [List.perm_ext_iff_of_nodup (nodup normal) (nodup normal')]
    intro b
    exact ⟨fun member => normal.subset_of_same normal' same member,
      fun member => normal'.subset_of_same normal (fun x => (same x).symm) member⟩
  refine members.eq_of_pairwise ?_ normal.ascending normal'.ascending
  intro a b _ _ less greater
  exact absurd (BitVec.lt_trans less greater) (BitVec.lt_irrefl _)

end Normal

end Block

end ClientOrigin
