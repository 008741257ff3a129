import ClientOrigin.Proofs.Limit.Precision

/-!
# Times on a grid

Half a second is a binary fraction, and a third or a tenth is none.  Where a clock only ever moves
by whole multiples of 1/512 seconds all times are binary fractions, and so are the tokens that they
bring in: nothing is rounded as long as a bucket is not full, and a full bucket is cut off at its
capacity in any case.  So a bucket is refilled exactly (`refilled_onGrid`) and spent exactly
(`spent_onGrid`).
-/

namespace ClientOrigin

open TokenArithmetic

namespace Binary64

/-! ## Exact operations -/

section Exact

variable {a b : Binary64}

theorem add_units (h : Representable (a.units + b.units)) :
    (add a b).units = a.units + b.units :=
  Nat.le_antisymm (add_le h (Nat.le_refl _)) (le_add h (Nat.le_refl _))

theorem sub_units (h : Representable (a.units - b.units)) :
    (sub a b).units = a.units - b.units :=
  Nat.le_antisymm (sub_le h (Nat.le_refl _)) (le_sub h (Nat.le_refl _))

theorem mul_units {n : Nat} (small : n ≤ 2 ^ 53) (h : Representable (a.units * n)) :
    (mul a (ofNat n)).units = a.units * n :=
  Nat.le_antisymm (mul_ofNat_le h small (Nat.le_refl _)) (le_mul_ofNat h small (Nat.le_refl _))

end Exact

/-! ## The grid -/

/-- The steps of the clock, in nanoseconds: 1/512 seconds. -/
def tick : Nat := 1953125

/-- The number 1/512 in units. -/
def grain : Nat := 1 <<< 1065

theorem grain_pos : 0 < grain := by decide +kernel

theorem scale_eq_grain : scale = 512 * grain := by decide +kernel

theorem representable_grain {n : Nat} (small : n ≤ 2 ^ 53) : Representable (n * grain) :=
  representable_shift small 1065

theorem whole_grain (n : Nat) : n * scale = n * 512 * grain := by
  rw [scale_eq_grain, Nat.mul_assoc]

theorem value_of_grain {x : Binary64} {n : Nat} (units : x.units = n * grain) :
    x.value = n / 512 := by
  have positive : (grain : Rat) ≠ 0 := Nat.cast_ne_zero.mpr (Nat.ne_of_gt grain_pos)
  unfold value
  rw [units, scale_eq_grain, Nat.cast_mul, Nat.cast_mul, mul_div_mul_right _ _ positive]
  norm_num

/-- A time on the grid is exact. -/
theorem seconds_onGrid {k : Nat} (small : k ≤ 2 ^ 53) :
    (seconds (k * tick)).units = k * grain := by
  have second : 1000000000 = 512 * tick := by decide
  have whole : k * tick / 1000000000 = k / 512 := by
    rw [second, Nat.mul_div_mul_right k 512 (by decide)]
  have rest : k * tick % 1000000000 = k % 512 * tick := by
    rw [second, Nat.mul_mod_mul_right]
  have below : k % 512 < 512 := Nat.mod_lt k (by decide)
  have fraction : (divNat (ofNat (k % 512 * tick)) 1000000000).units = k % 512 * grain := by
    have units : (ofNat (k % 512 * tick)).units = k % 512 * grain * 1000000000 := by
      rw [ofNat_units (by unfold tick; omega), scale_eq_grain, second]
      ring
    unfold divNat
    rw [units]
    exact rounded_mul (representable_grain (by omega)) (by decide)
  have seconds_whole : (ofNat (k / 512)).units = k / 512 * 512 * grain := by
    rw [ofNat_units (by omega), whole_grain]
  have sum : k / 512 * 512 * grain + k % 512 * grain = k * grain := by
    rw [← Nat.add_mul, Nat.div_add_mod']
  unfold seconds
  have represented : Representable
      ((ofNat (k / 512)).units + (divNat (ofNat (k % 512 * tick)) 1000000000).units) := by
    rw [seconds_whole, fraction, sum]
    exact representable_grain small
  rw [whole, rest, add_units represented, seconds_whole, fraction, sum]

end Binary64

namespace Bucket

open Binary64

/-- On the grid a bucket is refilled exactly. -/
theorem refilled_onGrid {rate burst : Nat} (smallRate : rate < 2 ^ 32)
    (smallBurst : burst < 2 ^ 32) {b : Bucket Binary64} {m k now : Nat}
    (tokens : b.tokens.units = m * grain)
    (room : m ≤ burst * 512) (passed : now - b.updated = k * tick) :
    (b.refilled (Binary64.ofNat burst) (Binary64.ofNat rate) now).tokens.units =
      min (m + k * rate) (burst * 512) * grain := by
  have capacity : (Binary64.ofNat burst).units = burst * 512 * grain := by
    rw [ofNat_units (by omega), whole_grain]
  have full : Representable (burst * 512 * grain) := representable_grain (by omega)
  rw [refilled_units, passed, capacity]
  rcases Nat.lt_or_ge (burst * 512) (m + k * rate) with beyond | inside
  · -- more comes in than there is room for, and the bucket is full however that is rounded
    have positive : 0 < rate := Nat.pos_of_ne_zero (by rintro rfl; omega)
    have missing : (burst * 512 - m) * grain ≤ (Binary64.seconds (k * tick)).units * rate := by
      rcases Nat.lt_or_ge (2 ^ 53) k with late | soon
      · have long : 2 ^ 32 * scale ≤ (Binary64.seconds (k * tick)).units :=
          le_seconds (by decide) (by unfold tick; omega)
        calc (burst * 512 - m) * grain ≤ 2 ^ 32 * 512 * grain :=
              Nat.mul_le_mul_right _ (by omega)
          _ = 2 ^ 32 * scale := (whole_grain _).symm
          _ ≤ (Binary64.seconds (k * tick)).units := long
          _ ≤ (Binary64.seconds (k * tick)).units * rate := Nat.le_mul_of_pos_right _ positive
      · rw [seconds_onGrid soon, Nat.mul_right_comm]
        exact Nat.mul_le_mul_right _ (by omega)
    have came := le_mul_ofNat (representable_grain (by omega)) (by omega) missing
    have enough : burst * 512 * grain ≤
        (Binary64.add b.tokens (Binary64.mul (Binary64.seconds (k * tick))
          (Binary64.ofNat rate))).units := by
      refine le_add full ?_
      have split : burst * 512 * grain = m * grain + (burst * 512 - m) * grain := by
        rw [← Nat.add_mul, Nat.add_sub_of_le room]
      rw [split, tokens]
      exact Nat.add_le_add_left came _
    rw [Nat.min_eq_right enough, Nat.min_eq_right (Nat.le_of_lt beyond)]
  · have product : (Binary64.mul (Binary64.seconds (k * tick)) (Binary64.ofNat rate)).units =
        k * rate * grain := by
      rcases Nat.eq_zero_or_pos rate with rfl | positive
      · rw [mul_units (by decide) representable_zero, Nat.mul_zero, Nat.mul_zero, Nat.zero_mul]
      · have short : k ≤ k * rate := Nat.le_mul_of_pos_right k positive
        have units := seconds_onGrid (k := k) (by omega)
        have exact : (Binary64.seconds (k * tick)).units * rate = k * rate * grain := by
          rw [units, Nat.mul_right_comm]
        rw [mul_units (by omega) (by rw [exact]; exact representable_grain (by omega)), exact]
    have sum : b.tokens.units + (Binary64.mul (Binary64.seconds (k * tick))
        (Binary64.ofNat rate)).units = (m + k * rate) * grain := by
      rw [tokens, product, Nat.add_mul]
    rw [add_units (by rw [sum]; exact representable_grain (by omega)), sum,
      Nat.min_eq_left inside, Nat.min_eq_left (Nat.mul_le_mul_right _ inside)]

/-- On the grid a token is taken exactly. -/
theorem spent_onGrid {b : Bucket Binary64} {m : Nat} (tokens : b.tokens.units = m * grain)
    (small : m ≤ 2 ^ 53) : b.spent.tokens.units = (m - 512) * grain := by
  have rest : b.tokens.units - (TokenArithmetic.ofNat 1 : Binary64).units = (m - 512) * grain := by
    rw [tokens_one, tokens, scale_eq_grain, Nat.sub_mul]
  exact (sub_units (by rw [rest]; exact representable_grain (by omega))).trans rest

end Bucket

end ClientOrigin
