import ClientOrigin.Proofs.Limit.Window
import Mathlib.Algebra.Order.Field.Basic
import Mathlib.Algebra.Order.Group.MinMax

/-!
# How far rounding carries

One rounding moves a number by no more than `2 ^ -53` of it (`rounded_value`), unless the number
lies far below any that a bucket counts with.  A refill rounds at most four times on its way to a
sum (`AfterRoundings`), and the capacity cuts off what goes beyond it.  So a bucket is refilled as
an exact one would be, up to `2 ^ -50` of its capacity (`refilled_near`).
-/

namespace ClientOrigin

open TokenArithmetic

namespace Binary64

/-! ## One rounding -/

/-- The exact value of a number. -/
def value (x : Binary64) : Rat := x.units / scale

/-- How far one rounding goes, in relation to the number. -/
def roundoff : Rat := 1 / 2 ^ 53

theorem nearest_spec {den : Nat} (pos : 0 < den) (num : Nat) :
    2 * (nearest num den * den) ≤ 2 * num + den ∧
      2 * num ≤ 2 * (nearest num den * den) + den := by
  have whole := Nat.div_add_mod num den
  have rest := Nat.mod_lt num pos
  rw [Nat.mul_comm] at whole
  unfold nearest
  dsimp only
  split
  · omega
  · split
    · rw [Nat.succ_mul (num / den) den]
      omega
    · -- the number lies half way, and either neighbour is as near
      rcases Nat.mod_two_eq_zero_or_one (num / den) with even | odd
      · rw [even, Nat.add_zero]
        omega
      · rw [odd, Nat.succ_mul (num / den) den]
        omega

/-- One rounding of a whole number of units, or of a quotient that is not too small. -/
theorem rounded_bounds {num den : Nat} (pos : 0 < den)
    (normal : den ∣ num ∨ 2 ^ 52 * den ≤ num) :
    2 ^ 53 * ((rounded num den).units * den) ≤ (2 ^ 53 + 1) * num ∧
      (2 ^ 53 - 1) * num ≤ 2 ^ 53 * ((rounded num den).units * den) := by
  obtain ⟨k, step, low⟩ := quantum_eq (num / den)
  by_cases exact : k = 0 ∧ den ∣ num
  · -- nothing is rounded
    obtain ⟨rfl, n, rfl⟩ := exact
    rw [Nat.mul_div_cancel_left n pos, Nat.pow_zero] at step
    have same : (rounded (den * n) den).units * den = den * n := by
      unfold rounded
      dsimp only
      rw [Nat.mul_div_cancel_left n pos, step, Nat.mul_one, Nat.mul_one]
      have le := nearest_le pos (Nat.le_of_eq (Nat.mul_comm den n))
      have ge := le_nearest pos (Nat.le_of_eq (Nat.mul_comm n den))
      rw [Nat.le_antisymm le ge, Nat.mul_comm]
    rw [same]
    omega
  · have spacing : 2 ^ 52 * (den * quantum (num / den)) ≤ num := by
      rcases low with rfl | low
      · rw [step, Nat.pow_zero, Nat.mul_one]
        exact normal.resolve_left fun divides => exact ⟨rfl, divides⟩
      · calc 2 ^ 52 * (den * quantum (num / den)) = 2 ^ 52 * 2 ^ k * den := by
              rw [step, Nat.mul_comm den, Nat.mul_assoc]
          _ ≤ num / den * den := Nat.mul_le_mul_right den low
          _ ≤ num := Nat.div_mul_le_self num den
    obtain ⟨le, ge⟩ := nearest_spec (Nat.mul_pos pos (quantum_pos (num / den))) num
    have units : nearest num (den * quantum (num / den)) * (den * quantum (num / den)) =
        (rounded num den).units * den := by
      unfold rounded
      dsimp only
      rw [Nat.mul_comm den, Nat.mul_assoc]
    rw [units] at le ge
    omega

/-! ## Several roundings -/

/-- A number after at most `count` roundings that go in any direction. -/
structure AfterRoundings (count : Nat) (x exact : Rat) : Prop where
  ge : exact * (1 - roundoff) ^ count ≤ x
  le : x ≤ exact * (1 + roundoff) ^ count

theorem roundoff_bounds : 0 < roundoff ∧ roundoff < 1 := by
  norm_num [roundoff]

namespace AfterRoundings

variable {m n : Nat} {x y z : Rat}

theorem refl (x : Rat) : AfterRoundings 0 x x := by
  constructor
  · rw [pow_zero, mul_one]
  · rw [pow_zero, mul_one]

theorem trans (first : AfterRoundings m y z) (second : AfterRoundings n x y) :
    AfterRoundings (m + n) x z := by
  obtain ⟨pos, small⟩ := roundoff_bounds
  constructor
  · calc z * (1 - roundoff) ^ (m + n) = z * (1 - roundoff) ^ m * (1 - roundoff) ^ n := by ring
      _ ≤ y * (1 - roundoff) ^ n :=
          mul_le_mul_of_nonneg_right first.ge (pow_nonneg (by linarith) n)
      _ ≤ x := second.ge
  · calc x ≤ y * (1 + roundoff) ^ n := second.le
      _ ≤ z * (1 + roundoff) ^ m * (1 + roundoff) ^ n :=
          mul_le_mul_of_nonneg_right first.le (pow_nonneg (by linarith) n)
      _ = z * (1 + roundoff) ^ (m + n) := by ring

/-- A number that was rounded less often. -/
theorem weaken (h : AfterRoundings m x y) (nonneg : 0 ≤ y) (more : m ≤ n) :
    AfterRoundings n x y := by
  obtain ⟨pos, small⟩ := roundoff_bounds
  constructor
  · refine le_trans (mul_le_mul_of_nonneg_left ?_ nonneg) h.ge
    exact pow_le_pow_of_le_one (by linarith) (by linarith) more
  · refine le_trans h.le (mul_le_mul_of_nonneg_left ?_ nonneg)
    exact pow_le_pow_right₀ (by linarith) more

theorem add {x' y' : Rat} (h : AfterRoundings n x y) (h' : AfterRoundings n x' y') :
    AfterRoundings n (x + x') (y + y') := by
  constructor
  · rw [add_mul]
    exact add_le_add h.ge h'.ge
  · rw [add_mul]
    exact add_le_add h.le h'.le

theorem mul (h : AfterRoundings n x y) (nonneg : 0 ≤ z) : AfterRoundings n (x * z) (y * z) := by
  constructor
  · rw [mul_right_comm]
    exact mul_le_mul_of_nonneg_right h.ge nonneg
  · rw [mul_right_comm]
    exact mul_le_mul_of_nonneg_right h.le nonneg

/-- After four roundings a number is off by less than `2 ^ -50` of it. -/
theorem abs_sub_le (h : AfterRoundings 4 x y) (nonneg : 0 ≤ y) : |x - y| ≤ y / 2 ^ 50 := by
  have up : (1 + roundoff) ^ 4 ≤ 1 + 1 / 2 ^ 50 := by norm_num [roundoff]
  have down : 1 - 1 / 2 ^ 50 ≤ (1 - roundoff) ^ 4 := by norm_num [roundoff]
  have above := le_trans h.le (mul_le_mul_of_nonneg_left up nonneg)
  have below := le_trans (mul_le_mul_of_nonneg_left down nonneg) h.ge
  rw [abs_le]
  constructor
  · linarith
  · linarith

/-- What lies beyond a bound is cut off, and so is its error. -/
theorem abs_min_sub_min_le {bound : Rat} (h : AfterRoundings 4 x y) (nonneg : 0 ≤ y)
    (positive : 0 ≤ bound) : |min x bound - min y bound| ≤ bound / 2 ^ 50 := by
  rcases le_total y bound with inside | beyond
  · calc |min x bound - min y bound| ≤ max |x - y| |bound - bound| :=
          abs_min_sub_min_le_max x bound y bound
      _ = |x - y| := by rw [sub_self, abs_zero, max_eq_left (abs_nonneg _)]
      _ ≤ y / 2 ^ 50 := h.abs_sub_le nonneg
      _ ≤ bound / 2 ^ 50 := div_le_div_of_nonneg_right inside (by norm_num)
  · have off := abs_le.mp (h.abs_sub_le nonneg)
    rw [min_eq_right beyond, abs_le]
    constructor
    · have least : bound - bound / 2 ^ 50 ≤ min x bound := le_min (by linarith) (by linarith)
      linarith
    · have most := min_le_right x bound
      linarith

end AfterRoundings

/-! ## Operations -/

theorem scale_cast_pos : (0 : Rat) < scale := Nat.cast_pos.mpr scale_pos

theorem value_nonneg (x : Binary64) : 0 ≤ x.value :=
  div_nonneg (Nat.cast_nonneg _) (le_of_lt scale_cast_pos)

theorem value_of_units {x : Binary64} {n : Nat} (units : x.units = n * scale) : x.value = n := by
  unfold value
  rw [units, Nat.cast_mul, mul_div_cancel_right₀ _ (ne_of_gt scale_cast_pos)]

theorem value_ofNat {n : Nat} (small : n ≤ 2 ^ 53) : (ofNat n).value = n :=
  value_of_units (ofNat_units small)

theorem value_least (x y : Binary64) : (least x y).value = min x.value y.value := by
  unfold value
  rw [least_units, Nat.cast_min, min_div_div_right (le_of_lt scale_cast_pos)]

theorem one_le_value_iff {x : Binary64} : 1 ≤ x.value ↔ scale ≤ x.units := by
  unfold value
  rw [le_div_iff₀ scale_cast_pos, one_mul, Nat.cast_le]

/-- One rounding, as a number and not in units. -/
theorem rounded_value {num den : Nat} (pos : 0 < den)
    (normal : den ∣ num ∨ 2 ^ 52 * den ≤ num) :
    AfterRoundings 1 (rounded num den).value (num / (den * scale)) := by
  obtain ⟨le, ge⟩ := rounded_bounds pos normal
  have denominator : (0 : Rat) < den * scale := mul_pos (Nat.cast_pos.mpr pos) scale_cast_pos
  have value : (rounded num den).value =
      ((rounded num den).units * den : Nat) / (den * scale : Rat) := by
    have nonzero : (den : Rat) ≠ 0 := ne_of_gt (Nat.cast_pos.mpr pos)
    unfold Binary64.value
    push_cast
    rw [mul_comm (den : Rat), mul_div_mul_right _ _ nonzero]
  have le' : (2 : Rat) ^ 53 * ((rounded num den).units * den : Nat) ≤ (2 ^ 53 + 1) * num := by
    exact_mod_cast le
  have ge' : ((2 : Rat) ^ 53 - 1) * num ≤ 2 ^ 53 * ((rounded num den).units * den : Nat) := by
    have cast : ((2 ^ 53 - 1 : Nat) : Rat) = 2 ^ 53 - 1 := by norm_num
    rw [← cast]
    exact_mod_cast ge
  rw [value]
  constructor
  · rw [pow_one, div_mul_eq_mul_div, div_le_div_iff_of_pos_right denominator]
    unfold roundoff
    linarith
  · rw [pow_one, div_mul_eq_mul_div, div_le_div_iff_of_pos_right denominator]
    unfold roundoff
    linarith

/-- A whole number of units is rounded once. -/
theorem rounded_one_value (num : Nat) : AfterRoundings 1 (rounded num 1).value (num / scale) := by
  have once := rounded_value Nat.one_pos (.inl (Nat.one_dvd num))
  rw [Nat.cast_one, one_mul] at once
  exact once

theorem add_value (a b : Binary64) : AfterRoundings 1 (add a b).value (a.value + b.value) := by
  have once := rounded_one_value (a.units + b.units)
  rw [Nat.cast_add, add_div] at once
  exact once

theorem sub_value {a b : Binary64} (le : b.units ≤ a.units) :
    AfterRoundings 1 (sub a b).value (a.value - b.value) := by
  have once := rounded_one_value (a.units - b.units)
  rw [Nat.cast_sub le, sub_div] at once
  exact once

theorem mul_value (a : Binary64) {n : Nat} (small : n ≤ 2 ^ 53) :
    AfterRoundings 1 (mul a (ofNat n)).value (a.value * n) := by
  have whole : scale ∣ a.units * (ofNat n).units :=
    ⟨a.units * n, by rw [ofNat_units small]; ring⟩
  have once := rounded_value scale_pos (.inl whole)
  have exact : ((a.units * (ofNat n).units : Nat) : Rat) / (scale * scale) = a.value * n := by
    rw [Nat.cast_mul, mul_div_mul_comm]
    exact congrArg (a.value * ·) (value_ofNat small)
  rw [exact] at once
  exact once

/-- A time in seconds is rounded twice. -/
theorem seconds_value (nanos : Nat) :
    AfterRoundings 2 (seconds nanos).value (nanos / 1000000000) := by
  have whole : AfterRoundings 1 (ofNat (nanos / 1000000000)).value
      ((nanos / 1000000000 : Nat) : Rat) := by
    have once := rounded_one_value (nanos / 1000000000 * scale)
    rw [Nat.cast_mul, mul_div_cancel_right₀ _ (ne_of_gt scale_cast_pos)] at once
    exact once
  have fraction : AfterRoundings 1
      (divNat (ofNat (nanos % 1000000000)) 1000000000).value
      ((nanos % 1000000000 : Nat) / 1000000000) := by
    have small := Nat.mod_lt nanos (by decide : 1000000000 > 0)
    have units := ofNat_units (n := nanos % 1000000000) (by omega)
    have normal : 1000000000 ∣ nanos % 1000000000 * scale ∨
        2 ^ 52 * 1000000000 ≤ nanos % 1000000000 * scale := by
      rcases Nat.eq_zero_or_pos (nanos % 1000000000) with none | some
      · rw [none, Nat.zero_mul]
        exact .inl (Nat.dvd_zero _)
      · have large : 2 ^ 52 * 1000000000 ≤ scale := by decide +kernel
        exact .inr (Nat.le_trans large (Nat.le_mul_of_pos_left scale some))
    have once := rounded_value (by decide) normal
    rw [Nat.cast_mul, mul_div_mul_right _ _ (ne_of_gt scale_cast_pos)] at once
    unfold divNat
    rw [units]
    exact once
  have sum : ((nanos / 1000000000 : Nat) : Rat) + (nanos % 1000000000 : Nat) / 1000000000 =
      nanos / 1000000000 := by
    have parts : ((1000000000 * (nanos / 1000000000) + nanos % 1000000000 : Nat) : Rat) = nanos :=
      congrArg Nat.cast (Nat.div_add_mod nanos 1000000000)
    push_cast at parts
    linarith
  have both := (whole.add fraction).trans (add_value _ _)
  rw [sum] at both
  exact both

/-- What comes in during some time is rounded three times. -/
theorem mul_seconds_value (nanos : Nat) {rate : Nat} (small : rate ≤ 2 ^ 53) :
    AfterRoundings 3 (mul (seconds nanos) (ofNat rate)).value (nanos / 1000000000 * rate) :=
  ((seconds_value nanos).mul (Nat.cast_nonneg rate)).trans (mul_value _ small)

end Binary64

/-! ## Buckets -/

namespace Bucket

open Binary64

variable {rate burst : Nat} (smallRate : rate ≤ 2 ^ 53) (smallBurst : burst ≤ 2 ^ 53)

include smallRate smallBurst in
/-- A bucket is refilled as an exact one, up to a small part of its capacity. -/
theorem refilled_near (b : Bucket Binary64) (now : Nat) :
    |(b.refilled (Binary64.ofNat burst) (Binary64.ofNat rate) now).tokens.value -
      min (b.tokens.value + income rate (now - b.updated)) burst| ≤ burst / 2 ^ 50 := by
  have came : AfterRoundings 3
      (Binary64.mul (Binary64.seconds (now - b.updated)) (Binary64.ofNat rate)).value
      (income rate (now - b.updated)) := by
    unfold income
    rw [mul_comm]
    exact mul_seconds_value (now - b.updated) smallRate
  have gain := income_nonneg (Nat.cast_nonneg (α := Rat) rate) (now - b.updated)
  have had : AfterRoundings 3 b.tokens.value b.tokens.value :=
    (AfterRoundings.refl _).weaken (value_nonneg _) (by decide)
  have sum := (had.add came).trans (add_value _ _)
  unfold refilled
  dsimp only
  rw [value_least]
  have capacity : (Binary64.ofNat burst).value = burst := value_ofNat smallBurst
  rw [← capacity]
  refine sum.abs_min_sub_min_le ?_ (value_nonneg _)
  have tokens := value_nonneg b.tokens
  linarith

/-- Taking a token is rounded once. -/
theorem spent_near {b : Bucket Binary64} (token : b.hasToken = true) :
    |b.spent.tokens.value - (b.tokens.value - 1)| ≤ b.tokens.value / 2 ^ 50 := by
  rw [hasToken_iff] at token
  have one : (TokenArithmetic.ofNat 1 : Binary64).value = 1 := by
    rw [value_of_units (tokens_one.trans (Nat.one_mul scale).symm), Nat.cast_one]
  have once : AfterRoundings 1 b.spent.tokens.value (b.tokens.value - 1) := by
    rw [← one]
    exact sub_value (by rw [tokens_one]; exact token)
  have nonneg : 0 ≤ b.tokens.value - 1 := by
    have enough := one_le_value_iff.mpr token
    linarith
  have off := (once.weaken nonneg (by decide)).abs_sub_le nonneg
  linarith

end Bucket

end ClientOrigin
