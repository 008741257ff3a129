import ClientOrigin.Limit.Binary64
import Mathlib.Algebra.Group.Nat.Defs

/-!
# Rounding

A rounded number is never on the other side of a representable number than the exact one
(`le_rounded`, `rounded_le`), so an exact number that is representable stays as it is
(`rounded_mul`).  From these the bounds for the arithmetic of tokens follow: whole numbers are
exact (`ofNat_units`), and sums, differences, products and times keep representable bounds.
-/

namespace ClientOrigin.Binary64

/-! ## Rounding to integers -/

theorem div_le_nearest (num den : Nat) : num / den ≤ nearest num den := by
  unfold nearest
  dsimp only
  split
  · exact Nat.le_refl _
  · split
    · exact Nat.le_succ _
    · exact Nat.le_add_right _ _

theorem nearest_le_succ (num den : Nat) : nearest num den ≤ num / den + 1 := by
  unfold nearest
  dsimp only
  split
  · exact Nat.le_succ _
  · split
    · exact Nat.le_refl _
    · exact Nat.add_le_add_left (Nat.le_of_lt_succ (Nat.mod_lt _ (by decide))) _

theorem le_nearest {num den n : Nat} (pos : 0 < den) (h : n * den ≤ num) :
    n ≤ nearest num den :=
  Nat.le_trans ((Nat.le_div_iff_mul_le pos).mpr h) (div_le_nearest num den)

theorem nearest_le {num den n : Nat} (pos : 0 < den) (h : num ≤ n * den) :
    nearest num den ≤ n := by
  rcases Nat.lt_or_ge (num / den) n with below | above
  · exact Nat.le_trans (nearest_le_succ num den) below
  · -- the number is the integer itself
    have exact : num = n * den := Nat.le_antisymm h ((Nat.le_div_iff_mul_le pos).mp above)
    have rest : num % den = 0 := by rw [exact, Nat.mul_mod_left]
    have quotient : num / den = n := by rw [exact, Nat.mul_div_cancel n pos]
    unfold nearest
    dsimp only
    rw [rest, if_pos (by omega)]
    exact Nat.le_of_eq quotient

/-! ## Representable numbers -/

/-- A number of units with at most 53 significant bits. -/
def Representable (x : Nat) : Prop := ∃ m e, m ≤ 2 ^ 53 ∧ x = m * 2 ^ e

theorem quantum_eq (q : Nat) : ∃ k, quantum q = 2 ^ k ∧ (k = 0 ∨ 2 ^ 52 * 2 ^ k ≤ q) := by
  unfold quantum
  split
  · exact ⟨0, rfl, .inl rfl⟩
  · next large =>
      rw [Nat.one_shiftLeft, Nat.not_lt] at large
      have some : q ≠ 0 := by omega
      have bits : 53 ≤ q.log2 := (Nat.le_log2 some).mpr large
      refine ⟨q.log2 - 52, Nat.one_shiftLeft _, .inr ?_⟩
      calc 2 ^ 52 * 2 ^ (q.log2 - 52) = 2 ^ q.log2 := by
            rw [← Nat.pow_add, Nat.add_sub_of_le (Nat.le_of_succ_le bits)]
        _ ≤ q := Nat.log2_self_le some

theorem quantum_pos (q : Nat) : 0 < quantum q := by
  obtain ⟨k, eq, _⟩ := quantum_eq q
  rw [eq]
  exact Nat.two_pow_pos k

/-- Near any number the representable ones are multiples of the spacing there, apart from those
that lie further down. -/
theorem Representable.dvd_or_lt {x : Nat} (h : Representable x) (q : Nat) :
    quantum q ∣ x ∨ ∃ n, x < n * quantum q ∧ n * quantum q ≤ q := by
  obtain ⟨m, e, small, rfl⟩ := h
  obtain ⟨k, eq, low⟩ := quantum_eq q
  rw [eq]
  rcases Nat.lt_or_ge e k with finer | coarser
  · rcases low with rfl | low
    · exact absurd finer (Nat.not_lt_zero e)
    · -- a finer number lies below all that have this spacing, and the least of those is on the grid
      by_cases top : m * 2 ^ e = 2 ^ 52 * 2 ^ k
      · exact .inl (top ▸ Nat.dvd_mul_left _ _)
      · refine .inr ⟨2 ^ 52, Nat.lt_of_le_of_ne ?_ top, low⟩
        calc m * 2 ^ e ≤ 2 ^ 53 * 2 ^ e := Nat.mul_le_mul_right _ small
          _ = 2 ^ 52 * 2 ^ (e + 1) := by rw [Nat.pow_succ 2 52, Nat.mul_assoc, ← Nat.pow_succ']
          _ ≤ 2 ^ 52 * 2 ^ k := Nat.mul_le_mul_left _ (Nat.pow_le_pow_right (by decide) finer)
  · exact .inl (Nat.dvd_mul_left_of_dvd (Nat.pow_dvd_pow 2 coarser) m)

/-- A representable number that is not above the exact one is not above the rounded one. -/
theorem le_rounded {x num den : Nat} (h : Representable x) (pos : 0 < den)
    (below : x * den ≤ num) : x ≤ (rounded num den).units := by
  have step := quantum_pos (num / den)
  have grid : ∀ n, n * quantum (num / den) ≤ num / den →
      n * quantum (num / den) ≤ (rounded num den).units := by
    intro n le
    refine Nat.mul_le_mul_right _ (le_nearest (Nat.mul_pos pos step) ?_)
    calc n * (den * quantum (num / den)) = n * quantum (num / den) * den := by
          rw [Nat.mul_comm den, Nat.mul_assoc]
      _ ≤ num / den * den := Nat.mul_le_mul_right _ le
      _ ≤ num := Nat.div_mul_le_self num den
  rcases h.dvd_or_lt (num / den) with ⟨n, rfl⟩ | ⟨n, lt, le⟩
  · rw [Nat.mul_comm]
    apply grid
    rw [Nat.mul_comm]
    exact (Nat.le_div_iff_mul_le pos).mpr below
  · exact Nat.le_trans (Nat.le_of_lt lt) (grid n le)

/-- A representable number that is not below the exact one is not below the rounded one. -/
theorem rounded_le {x num den : Nat} (h : Representable x) (pos : 0 < den)
    (above : num ≤ x * den) : (rounded num den).units ≤ x := by
  have step := quantum_pos (num / den)
  rcases h.dvd_or_lt (num / den) with ⟨n, rfl⟩ | ⟨n, lt, le⟩
  · rw [Nat.mul_comm _ n]
    refine Nat.mul_le_mul_right _ (nearest_le (Nat.mul_pos pos step) ?_)
    calc num ≤ quantum (num / den) * n * den := above
      _ = n * (den * quantum (num / den)) := by
          rw [Nat.mul_comm (quantum _), Nat.mul_assoc, Nat.mul_comm den]
  · -- the exact number would be above `x`
    have reached : num / den ≤ x := Nat.div_le_of_le_mul (by rw [Nat.mul_comm]; exact above)
    omega

/-- A representable number is not rounded. -/
theorem rounded_mul {x den : Nat} (h : Representable x) (pos : 0 < den) :
    (rounded (x * den) den).units = x :=
  Nat.le_antisymm (rounded_le h pos (Nat.le_refl _)) (le_rounded h pos (Nat.le_refl _))

/-! ## Tokens -/

/-- Half a token. -/
def half : Nat := 1 <<< 1073

theorem scale_eq : scale = 2 * half := by decide +kernel

theorem half_pos : 0 < half := by decide +kernel

theorem scale_pos : 0 < scale := by decide +kernel

theorem representable_shift {n : Nat} (small : n ≤ 2 ^ 53) (e : Nat) :
    Representable (n * 1 <<< e) :=
  ⟨n, e, small, by rw [Nat.one_shiftLeft]⟩

theorem representable_whole {n : Nat} (small : n ≤ 2 ^ 53) : Representable (n * scale) :=
  representable_shift small 1074

theorem representable_add_half {n : Nat} (small : n < 2 ^ 52) :
    Representable (n * scale + half) := by
  have odd : n * scale + half = (2 * n + 1) * half := by
    rw [scale_eq, ← Nat.mul_assoc, Nat.mul_comm n 2, Nat.succ_mul (2 * n)]
  rw [odd]
  exact representable_shift (by omega : 2 * n + 1 ≤ 2 ^ 53) 1073

theorem representable_zero : Representable 0 := ⟨0, 0, Nat.zero_le _, rfl⟩

/-- Whole numbers are exact. -/
theorem ofNat_units {n : Nat} (small : n ≤ 2 ^ 53) : (ofNat n).units = n * scale := by
  have exact := rounded_mul (representable_whole small) Nat.one_pos
  rw [Nat.mul_one] at exact
  exact exact

section Bounds

variable {a b : Binary64} {x : Nat} (h : Representable x)

include h

theorem le_add (below : x ≤ a.units + b.units) : x ≤ (add a b).units :=
  le_rounded h Nat.one_pos (by rw [Nat.mul_one]; exact below)

theorem add_le (above : a.units + b.units ≤ x) : (add a b).units ≤ x :=
  rounded_le h Nat.one_pos (by rw [Nat.mul_one]; exact above)

theorem le_sub (below : x ≤ a.units - b.units) : x ≤ (sub a b).units :=
  le_rounded h Nat.one_pos (by rw [Nat.mul_one]; exact below)

theorem sub_le (above : a.units - b.units ≤ x) : (sub a b).units ≤ x :=
  rounded_le h Nat.one_pos (by rw [Nat.mul_one]; exact above)

theorem le_mul_ofNat {n : Nat} (small : n ≤ 2 ^ 53) (below : x ≤ a.units * n) :
    x ≤ (mul a (ofNat n)).units := by
  refine le_rounded h scale_pos ?_
  rw [ofNat_units small, ← Nat.mul_assoc]
  exact Nat.mul_le_mul_right _ below

theorem mul_ofNat_le {n : Nat} (small : n ≤ 2 ^ 53) (above : a.units * n ≤ x) :
    (mul a (ofNat n)).units ≤ x := by
  refine rounded_le h scale_pos ?_
  rw [ofNat_units small, ← Nat.mul_assoc]
  exact Nat.mul_le_mul_right _ above

end Bounds

theorem eq_of_units {a b : Binary64} (h : a.units = b.units) : a = b := by
  cases a
  cases b
  exact congrArg Binary64.mk h

theorem tokens_le (a b : Binary64) : TokenArithmetic.le a b = decide (a.units ≤ b.units) := rfl

theorem tokens_one : (TokenArithmetic.ofNat 1 : Binary64).units = scale := by
  have one := ofNat_units (n := 1) (by decide)
  rw [Nat.one_mul] at one
  exact one

theorem least_units (a b : Binary64) :
    (TokenArithmetic.least a b).units = min a.units b.units := by
  rw [TokenArithmetic.least, tokens_le, Nat.min_def]
  by_cases less : a.units ≤ b.units
  · simp [less]
  · simp [less]

/-- No time brings no tokens. -/
theorem mul_seconds_zero (a : Binary64) : mul (seconds 0) a = ⟨0⟩ := by
  have none : seconds 0 = ⟨0⟩ := by decide +kernel
  have zero : (mul ⟨0⟩ a).units ≤ 0 := rounded_le representable_zero scale_pos (by simp)
  rw [none]
  exact congrArg Binary64.mk (Nat.le_zero.mp zero)

theorem le_seconds {n nanos : Nat} (small : n ≤ 2 ^ 53) (reached : n * 1000000000 ≤ nanos) :
    n * scale ≤ (seconds nanos).units := by
  have whole : n ≤ nanos / 1000000000 := (Nat.le_div_iff_mul_le (by decide)).mpr reached
  have first : n * scale ≤ (ofNat (nanos / 1000000000)).units := by
    refine le_rounded (representable_whole small) Nat.one_pos ?_
    rw [Nat.mul_one]
    exact Nat.mul_le_mul_right _ whole
  exact le_add (representable_whole small) (Nat.le_trans first (Nat.le_add_right _ _))

end ClientOrigin.Binary64
