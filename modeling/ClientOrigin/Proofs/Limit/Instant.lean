import ClientOrigin.Proofs.Limit.Buckets
import ClientOrigin.Proofs.Limit.Rounding
import ClientOrigin.Proofs.Service.RateLimit

/-!
# Checks at one instant

While the clock stands still a client's bucket gets no tokens (`refilled_units_now`) and each
granted check takes one (`le_ready_spent`, `ready_spent_le`).  So a client that asks again and
again is granted as many checks as there are whole tokens (`allGranted_of_le`,
`le_of_allGranted`), and none are left after them (`drained_of_allGranted`).
-/

namespace ClientOrigin

open TokenArithmetic

/-! ## One bucket -/

namespace Bucket

section Acquire

variable {α : Type} [TokenArithmetic α] {b : Bucket α} {capacity rate : α} {now : Nat}

theorem acquire_of_token (token : (b.refilled capacity rate now).hasToken = true) :
    b.acquire capacity rate now = (true, (b.refilled capacity rate now).spent) :=
  if_pos token

theorem acquire_of_no_token (none : ¬ (b.refilled capacity rate now).hasToken = true) :
    b.acquire capacity rate now = (false, b.refilled capacity rate now) :=
  if_neg none

end Acquire

theorem hasToken_iff (b : Bucket Binary64) :
    b.hasToken = true ↔ Binary64.scale ≤ b.tokens.units := by
  rw [hasToken, Binary64.tokens_le, Binary64.tokens_one, decide_eq_true_eq]

theorem refilled_units (b : Bucket Binary64) (capacity rate : Binary64) (now : Nat) :
    (b.refilled capacity rate now).tokens.units =
      min (Binary64.add b.tokens (Binary64.mul (Binary64.seconds (now - b.updated)) rate)).units
        capacity.units := by
  unfold refilled
  exact Binary64.least_units _ _

/-- A bucket that was stamped at this instant gets nothing. -/
theorem refilled_units_now {b : Bucket Binary64} {now : Nat} (stamped : b.updated = now)
    (capacity rate : Binary64) :
    (b.refilled capacity rate now).tokens.units =
      min (Binary64.add b.tokens ⟨0⟩).units capacity.units := by
  rw [refilled_units, stamped, Nat.sub_self, Binary64.mul_seconds_zero]

section Bounds

variable {b : Bucket Binary64} {x : Nat} (h : Binary64.Representable x)

include h

theorem le_spent (below : x + Binary64.scale ≤ b.tokens.units) : x ≤ b.spent.tokens.units := by
  refine Binary64.le_sub h ?_
  rw [Binary64.tokens_one]
  exact Nat.le_sub_of_add_le below

theorem spent_le (above : b.tokens.units ≤ x + Binary64.scale) : b.spent.tokens.units ≤ x := by
  refine Binary64.sub_le h ?_
  rw [Binary64.tokens_one]
  exact Nat.sub_le_of_le_add above

variable {now : Nat} (stamped : b.updated = now) {capacity : Binary64} (rate : Binary64)

include stamped

theorem le_refilled_now (below : x ≤ b.tokens.units) (fits : x ≤ capacity.units) :
    x ≤ (b.refilled capacity rate now).tokens.units := by
  rw [refilled_units_now stamped]
  exact Nat.le_min.mpr ⟨Binary64.le_add h below, fits⟩

theorem refilled_now_le (above : b.tokens.units ≤ x) :
    (b.refilled capacity rate now).tokens.units ≤ x := by
  rw [refilled_units_now stamped]
  exact Nat.le_trans (Nat.min_le_left _ _) (Binary64.add_le h above)

end Bounds

end Bucket

namespace Limiter.Timed

/-- The bucket that a check of a client finds, refilled. -/
def ready (t : Timed Binary64) (a : Address) : Bucket Binary64 :=
  (t.limiter.found t.now a).refilled t.limiter.capacity t.limiter.rate t.now

/-- The limiter with the given bucket for a client. -/
def leaving (t : Timed Binary64) (a : Address) (b : Bucket Binary64) : Timed Binary64 :=
  { t with limiter := t.limiter.withBucket a b }

/-- A check is granted if there is a whole token, and takes it. -/
theorem step_check_granted {t : Timed Binary64} {a : Address}
    (token : Binary64.scale ≤ (t.ready a).tokens.units) :
    t.step (.check a) = (some true, t.leaving a (t.ready a).spent) := by
  rw [← Bucket.hasToken_iff, ready] at token
  refine step_check ?_
  rw [check_eq, Bucket.acquire_of_token token]
  rfl

theorem step_check_denied {t : Timed Binary64} {a : Address}
    (none : ¬ Binary64.scale ≤ (t.ready a).tokens.units) :
    t.step (.check a) = (some false, t.leaving a (t.ready a)) := by
  rw [← Bucket.hasToken_iff, ready] at none
  refine step_check ?_
  rw [check_eq, Bucket.acquire_of_no_token none]
  rfl

theorem ready_leaving (t : Timed Binary64) (a : Address) (b : Bucket Binary64) :
    (t.leaving a b).ready a = b.refilled t.limiter.capacity t.limiter.rate t.now := by
  have kept : (t.limiter.withBucket a b).found t.now a = b := by
    unfold found
    rw [bucket?_withBucket_self, Option.getD_some]
  show ((t.limiter.withBucket a b).found t.now a).refilled _ _ _ = _
  rw [kept]
  rfl

theorem ready_le_capacity (t : Timed Binary64) (a : Address) :
    (t.ready a).tokens.units ≤ t.limiter.capacity.units := by
  unfold ready
  rw [Bucket.refilled_units]
  exact Nat.min_le_right _ _

/-- A client without a bucket gets a full one. -/
theorem ready_of_none {t : Timed Binary64} {a : Address} (new : t.limiter.bucket? a = none)
    (h : Binary64.Representable t.limiter.capacity.units) :
    (t.ready a).tokens.units = t.limiter.capacity.units := by
  refine Nat.le_antisymm (t.ready_le_capacity a) ?_
  unfold ready found
  rw [new, Option.getD_none]
  exact Bucket.le_refilled_now h rfl _ (Nat.le_refl _) (Nat.le_refl _)

section OneCheck

variable {t : Timed Binary64} {a : Address} {x : Nat} (h : Binary64.Representable x)

include h

/-- A granted check leaves all tokens but one. -/
theorem le_ready_spent (below : x + Binary64.scale ≤ (t.ready a).tokens.units) :
    x ≤ ((t.leaving a (t.ready a).spent).ready a).tokens.units := by
  rw [ready_leaving]
  have fits : x ≤ t.limiter.capacity.units :=
    Nat.le_trans (Nat.le_trans (Nat.le_add_right _ _) below) (t.ready_le_capacity a)
  exact Bucket.le_refilled_now h rfl _ (Bucket.le_spent h below) fits

theorem ready_spent_le (above : (t.ready a).tokens.units ≤ x + Binary64.scale) :
    ((t.leaving a (t.ready a).spent).ready a).tokens.units ≤ x := by
  rw [ready_leaving]
  exact Bucket.refilled_now_le h rfl _ (Bucket.spent_le h above)

end OneCheck

/-! ## Many checks -/

/-- A client that asks the given number of times. -/
def asking (a : Address) (n : Nat) : List Limiter.Step := List.replicate n (.check a)

section Asking

variable {α : Type} [TokenArithmetic α]

theorem checks_advance (t : Timed α) (nanos : Nat) (rest : List Limiter.Step) :
    t.checks (.advance nanos :: rest) = (t.step (.advance nanos)).2.checks rest := rfl

theorem checks_prune (t : Timed α) (maxIdle : Nat) (rest : List Limiter.Step) :
    t.checks (.prune maxIdle :: rest) = (t.step (.prune maxIdle)).2.checks rest := rfl

theorem checks_append (t : Timed α) (steps rest : List Limiter.Step) :
    t.checks (steps ++ rest) = t.checks steps ++ (t.run steps).2.checks rest := by
  induction steps generalizing t with
  | nil => rfl
  | cons next steps ih =>
      rw [List.cons_append, checks_cons, checks_cons, run_cons, ih, List.append_assoc]

theorem run_asking_succ (t : Timed α) (a : Address) (n : Nat) :
    (t.run (asking a (n + 1))).2 = ((t.step (.check a)).2.run (asking a n)).2 := rfl

theorem run_asking_now (t : Timed α) (a : Address) (n : Nat) :
    (t.run (asking a n)).2.now = t.now := by
  induction n generalizing t with
  | zero => rfl
  | succ n ih => exact ih (t.step (.check a)).2

end Asking

/-- All of them are granted. -/
def AllGranted (t : Timed Binary64) (a : Address) (n : Nat) : Prop :=
  t.checks (asking a n) = List.replicate n true

theorem allGranted_succ_iff (t : Timed Binary64) (a : Address) (n : Nat) :
    t.AllGranted a (n + 1) ↔
      Binary64.scale ≤ (t.ready a).tokens.units ∧
        (t.leaving a (t.ready a).spent).AllGranted a n := by
  unfold AllGranted asking
  rw [List.replicate_succ, checks_cons, List.replicate_succ]
  by_cases token : Binary64.scale ≤ (t.ready a).tokens.units
  · rw [step_check_granted token]
    simp [token]
  · rw [step_check_denied token]
    simp [token]

/-- As many checks are granted as there are whole tokens. -/
theorem allGranted_of_le {n : Nat} (small : n ≤ 2 ^ 53) {t : Timed Binary64} {a : Address}
    (stock : n * Binary64.scale ≤ (t.ready a).tokens.units) : t.AllGranted a n := by
  induction n generalizing t with
  | zero => rfl
  | succ n ih =>
      rw [Nat.succ_mul] at stock
      have fewer : n ≤ 2 ^ 53 := Nat.le_of_succ_le small
      rw [allGranted_succ_iff]
      exact ⟨Nat.le_trans (Nat.le_add_left _ _) stock,
        ih fewer (le_ready_spent (Binary64.representable_whole fewer) stock)⟩

/-- No more checks are granted than there are whole tokens. -/
theorem le_of_allGranted {n m : Nat} (small : m ≤ 2 ^ 52) {t : Timed Binary64} {a : Address}
    (stock : (t.ready a).tokens.units ≤ m * Binary64.scale + Binary64.half)
    (granted : t.AllGranted a n) : n ≤ m := by
  induction n generalizing t m with
  | zero => exact Nat.zero_le m
  | succ n ih =>
      obtain ⟨token, granted⟩ := (allGranted_succ_iff t a n).mp granted
      have half := Binary64.half_pos
      have scale := Binary64.scale_eq
      cases m with
      | zero => omega
      | succ m =>
          have stock : (t.ready a).tokens.units ≤
              m * Binary64.scale + Binary64.half + Binary64.scale := by
            rw [Nat.succ_mul] at stock
            omega
          exact Nat.succ_le_succ (ih (Nat.le_of_succ_le small)
            (ready_spent_le (Binary64.representable_add_half small) stock) granted)

/-- A client that was granted all tokens there were has none left. -/
theorem drained_of_allGranted {n : Nat} (small : n ≤ 2 ^ 53) {t : Timed Binary64} {a : Address}
    (stock : (t.ready a).tokens.units ≤ (n + 1) * Binary64.scale)
    (granted : t.AllGranted a (n + 1)) :
    (t.run (asking a (n + 1))).2.limiter.bucket? a = some ⟨⟨0⟩, t.now⟩ := by
  induction n generalizing t with
  | zero =>
      obtain ⟨token, _⟩ := (allGranted_succ_iff t a 0).mp granted
      have spent := Bucket.spent_le Binary64.representable_zero
        (show (t.ready a).tokens.units ≤ 0 + Binary64.scale by omega)
      have none : (t.ready a).spent = ⟨⟨0⟩, t.now⟩ :=
        congrArg (Bucket.mk · t.now) (congrArg Binary64.mk (Nat.le_zero.mp spent))
      rw [run_asking_succ, step_check_granted token, none]
      exact bucket?_withBucket_self t.limiter a _
  | succ n ih =>
      obtain ⟨token, granted⟩ := (allGranted_succ_iff t a (n + 1)).mp granted
      rw [Nat.succ_mul] at stock
      have stock := ready_spent_le (Binary64.representable_whole small) stock
      have later := ih (Nat.le_of_succ_le small) stock granted
      rw [run_asking_succ, step_check_granted token]
      dsimp only
      rw [later]
      rfl

end Limiter.Timed

end ClientOrigin
