import ClientOrigin.Network.Basic
import Mathlib.Algebra.Group.Nat.Defs

/-!
# The addresses of a block

A block holds the addresses that share its leading bits (`contains_iff_div`), whatever its host
bits are.  A block whose base is aligned begins at its base (`first_of_dvd`).
-/

namespace ClientOrigin

namespace Block

variable {w : Nat} (b : Block w)

theorem size_eq : b.size = 2 ^ (w - b.length) := by
  unfold size
  rw [Nat.shiftLeft_eq, Nat.one_mul]

theorem size_pos : 0 < b.size := by
  rw [size_eq]
  exact Nat.two_pow_pos _

theorem contains_iff (a : BitVec w) :
    b.contains a = true ↔ b.first ≤ a.toNat ∧ a.toNat ≤ b.last := by
  unfold contains
  rw [Bool.and_eq_true, decide_eq_true_eq, decide_eq_true_eq]

/-- Membership is having the same leading bits. -/
theorem contains_iff_div (a : BitVec w) :
    b.contains a = true ↔ a.toNat / b.size = b.base.toNat / b.size := by
  have pos := b.size_pos
  rw [contains_iff, Nat.div_eq_iff pos]
  unfold last first
  have size : b.base.toNat / b.size * b.size + b.size - 1 =
      b.base.toNat / b.size * b.size + (b.size - 1) := Nat.add_sub_assoc pos _
  rw [size]

/-- A block with an aligned base begins there. -/
theorem first_of_dvd (aligned : b.size ∣ b.base.toNat) : b.first = b.base.toNat :=
  Nat.div_mul_cancel aligned

/-- The greatest address of a block is an address of its family. -/
theorem last_lt : b.last < 2 ^ w := by
  -- the block is one of the equal parts into which its size cuts the family
  have parts : 2 ^ w = 2 ^ b.length * b.size := by
    rw [size_eq, ← Nat.pow_add]
    congr 1
    have := b.length_le
    omega
  have part : b.base.toNat / b.size < 2 ^ b.length := by
    rw [Nat.div_lt_iff_lt_mul b.size_pos, ← parts]
    exact b.base.isLt
  have next : (b.base.toNat / b.size + 1) * b.size ≤ 2 ^ w := by
    rw [parts]
    exact Nat.mul_le_mul_right b.size part
  rw [Nat.add_mul, Nat.one_mul] at next
  have pos := b.size_pos
  unfold last first
  omega

/-! ## Host bits -/

theorem first_le_base : b.first ≤ b.base.toNat := Nat.div_mul_le_self _ _

theorem truncated_base : b.truncated.base.toNat = b.first := by
  have small : b.first < 2 ^ w := Nat.lt_of_le_of_lt b.first_le_base b.base.isLt
  show b.first % 2 ^ w = b.first
  exact Nat.mod_eq_of_lt small

/-- Host bits do not matter for membership. -/
theorem truncated_contains (a : BitVec w) : b.truncated.contains a = b.contains a := by
  have size : b.truncated.size = b.size := rfl
  have leading : b.first / b.size = b.base.toNat / b.size :=
    Nat.mul_div_cancel _ b.size_pos
  rw [Bool.eq_iff_iff, contains_iff_div, contains_iff_div, truncated_base, size, leading]

end Block

/-- Host bits do not matter in a network of either family. -/
theorem Network.truncated_contains (n : Network) (a : Address) :
    n.truncated.contains a = n.contains a := by
  cases n with
  | v4 block =>
      cases a with
      | v4 bits => exact block.truncated_contains bits
      | v6 bits => rfl
  | v6 block =>
      cases a with
      | v4 bits => rfl
      | v6 bits => exact block.truncated_contains bits

end ClientOrigin
