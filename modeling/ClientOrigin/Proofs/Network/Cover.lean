import ClientOrigin.Network.Aggregate
import ClientOrigin.Proofs.Network.Block
import Mathlib.Data.List.Basic

/-!
# Cutting a range into blocks

The blocks of a range hold the addresses of the range and no others (`cover_contains`).  A block
begins where the last one ended and stays inside the range; what has to be shown beyond that is
that twice as many blocks as an address has bits, and one more, are always enough.

* **Up** — as long as the alignment of the start limits the size, each block raises the
  alignment (`coversFrom_of_aligned`).
* **Down** — once the count of addresses limits the size, each block is smaller than the one
  before (`coversFrom_of_short`).
-/

namespace ClientOrigin

namespace Block

/-! ## Alignment -/

/-- The low zero bits of a number tell the powers of two that divide it. -/
theorem le_trailingZeros_iff {j w : Nat} (h : j ≤ w) (value : Nat) :
    j ≤ trailingZeros w value ↔ 2 ^ j ∣ value := by
  induction w generalizing j value with
  | zero =>
      obtain rfl : j = 0 := by omega
      exact ⟨fun _ => Nat.one_dvd value, fun _ => Nat.zero_le _⟩
  | succ w ih =>
      cases j with
      | zero => exact ⟨fun _ => Nat.one_dvd value, fun _ => Nat.zero_le _⟩
      | succ j =>
          unfold trailingZeros
          by_cases even : value % 2 = 0
          · have half : value = 2 * (value / 2) := by omega
            rw [if_pos even, Nat.add_le_add_iff_right, ih (by omega) (value / 2), Nat.pow_succ']
            constructor
            · intro dvd
              rw [half]
              exact Nat.mul_dvd_mul_left 2 dvd
            · intro dvd
              rw [half] at dvd
              exact Nat.dvd_of_mul_dvd_mul_left (by decide) dvd
          · rw [if_neg even, Nat.pow_succ']
            constructor
            · intro impossible
              exact absurd impossible (by omega)
            · intro dvd
              have two : 2 ∣ value := Nat.dvd_trans (Nat.dvd_mul_right 2 _) dvd
              exact absurd (Nat.mod_eq_zero_of_dvd two) even

theorem trailingZeros_le (w value : Nat) : trailingZeros w value ≤ w := by
  induction w generalizing value with
  | zero => exact Nat.le_refl 0
  | succ w ih =>
      unfold trailingZeros
      split
      · exact Nat.succ_le_succ (ih (value / 2))
      · exact Nat.zero_le _

/-- An aligned number that is not aligned any further is so after one step. -/
theorem two_pow_succ_dvd_add {t start : Nat} (aligned : 2 ^ t ∣ start)
    (exactly : ¬ 2 ^ (t + 1) ∣ start) : 2 ^ (t + 1) ∣ start + 2 ^ t := by
  obtain ⟨q, rfl⟩ := aligned
  have odd : q % 2 = 1 := by
    refine (Nat.mod_two_eq_zero_or_one q).resolve_left ?_
    intro even
    apply exactly
    rw [Nat.pow_succ]
    exact Nat.mul_dvd_mul_left _ (Nat.dvd_of_mod_eq_zero even)
  have next : 2 ^ t * q + 2 ^ t = 2 ^ t * (q + 1) := (Nat.mul_succ _ q).symm
  rw [next, Nat.pow_succ]
  exact Nat.mul_dvd_mul_left _ (Nat.dvd_of_mod_eq_zero (by omega))

/-! ## The first block of a range -/

section Leading

variable (w : Nat) {start last : Nat}

theorem hostBits_le (start last : Nat) : hostBits w start last ≤ w :=
  Nat.le_trans (Nat.min_le_right _ _) (trailingZeros_le w start)

/-- Few addresses make a small block. -/
theorem hostBits_of_short {j : Nat} (aligned : 2 ^ j ∣ start) (bits : j ≤ w)
    (short : last - start + 1 < 2 ^ j) :
    hostBits w start last = Nat.log2 (last - start + 1) := by
  have small : Nat.log2 (last - start + 1) < j := (Nat.log2_lt (by omega)).mpr short
  have zeros : j ≤ trailingZeros w start := (le_trailingZeros_iff bits start).mpr aligned
  exact Nat.min_eq_left (by omega)

/-- Many addresses make a block as large as the start allows. -/
theorem hostBits_of_long (long : 2 ^ trailingZeros w start ≤ last - start + 1) :
    hostBits w start last = trailingZeros w start :=
  Nat.min_eq_right ((Nat.le_log2 (by omega)).mpr long)

/-- The first block begins at the start and does not go beyond the end. -/
theorem leading_bounds (below : start ≤ last) (family : last < 2 ^ w) :
    (leading w start last).first = start ∧
      (leading w start last).last + 1 = start + 2 ^ hostBits w start last ∧
      start + 2 ^ hostBits w start last ≤ last + 1 := by
  have base : (leading w start last).base.toNat = start := by
    show start % 2 ^ w = start
    exact Nat.mod_eq_of_lt (by omega)
  have size : (leading w start last).size = 2 ^ hostBits w start last := by
    rw [size_eq]
    show 2 ^ (w - (w - hostBits w start last)) = _
    rw [Nat.sub_sub_self (hostBits_le w start last)]
  have aligned : 2 ^ hostBits w start last ∣ start :=
    (le_trailingZeros_iff (hostBits_le w start last) start).mp (Nat.min_le_right _ _)
  have first : (leading w start last).first = start := by
    have own : (leading w start last).size ∣ (leading w start last).base.toNat := by
      rw [size, base]
      exact aligned
    rw [first_of_dvd _ own, base]
  have room : 2 ^ hostBits w start last ≤ last - start + 1 :=
    Nat.le_trans (Nat.pow_le_pow_right (by decide) (Nat.min_le_left _ _))
      (Nat.log2_self_le (by omega))
  have pos : 0 < 2 ^ hostBits w start last := Nat.two_pow_pos _
  refine ⟨first, ?_, by omega⟩
  unfold Block.last
  rw [first, size]
  omega

end Leading

/-! ## All blocks -/

theorem coverFrom_succ {w start last : Nat} (fuel : Nat) (below : start ≤ last) :
    coverFrom w last (fuel + 1) start =
      leading w start last :: coverFrom w last fuel ((leading w start last).last + 1) := by
  show (if start ≤ last then _ else []) = _
  rw [if_pos below]

theorem coverFrom_of_lt {w start last : Nat} (fuel : Nat) (above : last < start) :
    coverFrom w last fuel start = [] := by
  cases fuel with
  | zero => rfl
  | succ fuel =>
      show (if start ≤ last then _ else []) = []
      rw [if_neg (Nat.not_le_of_lt above)]

/-- The blocks from `start` on hold the addresses from there to the end of the range. -/
def CoversFrom (w last fuel start : Nat) : Prop :=
  ∀ a : BitVec w, (∃ b ∈ coverFrom w last fuel start, b.contains a = true) ↔
    start ≤ a.toNat ∧ a.toNat ≤ last

section Covers

variable {w last fuel start : Nat}

/-- Nothing is left, and no block is made. -/
theorem coversFrom_of_lt (above : last < start) : CoversFrom w last fuel start := by
  intro a
  rw [coverFrom_of_lt fuel above]
  constructor
  · rintro ⟨b, impossible, _⟩
    exact absurd impossible List.not_mem_nil
  · intro inside
    exact absurd inside (by omega)

/-- One block and the rest: the invariant of the cut. -/
theorem coversFrom_succ (below : start ≤ last) (family : last < 2 ^ w)
    (rest : CoversFrom w last fuel (start + 2 ^ hostBits w start last)) :
    CoversFrom w last (fuel + 1) start := by
  obtain ⟨first, next, room⟩ := leading_bounds w below family
  have pos : 0 < 2 ^ hostBits w start last := Nat.two_pow_pos _
  intro a
  rw [coverFrom_succ fuel below, next, List.exists_mem_cons_iff, rest a, contains_iff, first]
  constructor
  · rintro (⟨low, high⟩ | ⟨low, high⟩)
    · exact ⟨low, by omega⟩
    · exact ⟨by omega, high⟩
  · rintro ⟨low, high⟩
    rcases Nat.lt_or_ge a.toNat (start + 2 ^ hostBits w start last) with inside | beyond
    · exact .inl ⟨low, by omega⟩
    · exact .inr ⟨beyond, high⟩

/-- Down: from a start that is aligned for more than what is left, each block takes more than
half of it, so there are no more blocks than bits. -/
theorem coversFrom_of_short {j : Nat} (family : last < 2 ^ w) (bits : j ≤ w)
    (aligned : 2 ^ j ∣ start) (short : last + 1 < start + 2 ^ j) (enough : j ≤ fuel) :
    CoversFrom w last fuel start := by
  induction fuel generalizing j start with
  | zero =>
      obtain rfl : j = 0 := by omega
      rw [Nat.pow_zero] at short
      exact coversFrom_of_lt (by omega)
  | succ fuel ih =>
      rcases Nat.lt_or_ge last start with above | below
      · exact coversFrom_of_lt above
      · have host : hostBits w start last = Nat.log2 (last - start + 1) :=
          hostBits_of_short w aligned bits (by omega)
        have smaller : Nat.log2 (last - start + 1) < j :=
          (Nat.log2_lt (by omega)).mpr (by omega)
        have half : last - start + 1 < 2 ^ (Nat.log2 (last - start + 1) + 1) := Nat.lt_log2_self
        have again : 2 ^ Nat.log2 (last - start + 1) ∣ start + 2 ^ Nat.log2 (last - start + 1) :=
          Nat.dvd_add (Nat.dvd_trans (Nat.pow_dvd_pow 2 (by omega)) aligned) (Nat.dvd_refl _)
        refine coversFrom_succ below family ?_
        rw [host]
        refine ih (by omega) again ?_ (by omega)
        rw [Nat.pow_succ] at half
        omega

/-- Up: each block that is as large as its start allows raises the alignment, and there are only
as many alignments as bits. -/
theorem coversFrom_of_aligned (family : last < 2 ^ w) (missing : Nat) {t : Nat}
    (bits : t + missing = w) (aligned : 2 ^ t ∣ start) (enough : missing + w + 1 ≤ fuel) :
    CoversFrom w last fuel start := by
  induction missing generalizing t start fuel with
  | zero =>
      obtain rfl : t = w := by omega
      rcases Nat.lt_or_ge (last + 1) (start + 2 ^ t) with short | long
      · exact coversFrom_of_short family (Nat.le_refl t) aligned short (by omega)
      · -- the range is the whole family, and its only block is the largest one
        obtain ⟨fuel, rfl⟩ : ∃ f, fuel = f + 1 := ⟨fuel - 1, by omega⟩
        have zeros : trailingZeros t start = t :=
          Nat.le_antisymm (trailingZeros_le t start)
            ((le_trailingZeros_iff (Nat.le_refl t) start).mpr aligned)
        have pos : 0 < 2 ^ t := Nat.two_pow_pos t
        have host : hostBits t start last = t := by
          rw [hostBits_of_long t (by rw [zeros]; omega), zeros]
        refine coversFrom_succ (by omega) family ?_
        rw [host]
        exact coversFrom_of_lt (by omega)
  | succ missing ih =>
      by_cases further : 2 ^ (t + 1) ∣ start
      · exact ih (by omega) further (by omega)
      · rcases Nat.lt_or_ge (last + 1) (start + 2 ^ t) with short | long
        · exact coversFrom_of_short family (by omega) aligned short (by omega)
        · obtain ⟨fuel, rfl⟩ : ∃ f, fuel = f + 1 := ⟨fuel - 1, by omega⟩
          have atLeast : t ≤ trailingZeros w start :=
            (le_trailingZeros_iff (by omega) start).mpr aligned
          have atMost : ¬ t + 1 ≤ trailingZeros w start := by
            rw [le_trailingZeros_iff (by omega) start]
            exact further
          have zeros : trailingZeros w start = t := by omega
          have pos : 0 < 2 ^ t := Nat.two_pow_pos t
          have host : hostBits w start last = t := by
            rw [hostBits_of_long w (by rw [zeros]; omega), zeros]
          refine coversFrom_succ (by omega) family ?_
          rw [host]
          exact ih (by omega) (two_pow_succ_dvd_add aligned further) (by omega)

end Covers

/-- The blocks of a range hold its addresses and no others. -/
theorem cover_contains {w : Nat} {range : AddressRange} (family : range.last < 2 ^ w)
    (a : BitVec w) :
    (∃ b ∈ cover w range, b.contains a = true) ↔
      range.first ≤ a.toNat ∧ a.toNat ≤ range.last := by
  have all : CoversFrom w range.last (2 * w + 1) range.first :=
    coversFrom_of_aligned family w (Nat.zero_add w) (Nat.one_dvd _) (by omega)
  exact all a

end Block

end ClientOrigin
