import ClientOrigin.Proofs.Limit.Paced

/-!
# Bursts

At one instant a client is granted one check after the other until its whole tokens are used up,
and none after that.  Other clients and pruning do not come between.

* `Representable.sub_scale`, `Bucket.spent_units` — a token is taken exactly, whatever fraction
  earlier refills have left, and a refill of no time adds nothing (`Bucket.refilled_units_self`);
* `Timed.stock` — the whole tokens of a client.  A check is granted if there is one, and there is
  one less after it (`outcome_check`, `stock_check`);
* `Timed.Settled` — the bucket of the client was stamped at this instant or does not exist, so
  that no other step at this instant changes it (`Settled.step`).  Every check settles its client;
* `checksOf_settled`, `exists_checksOf_eq` — so the checks of an instant are granted as far as the
  stock goes (`burst_at_once`).
-/

namespace ClientOrigin

/-! ## Exact tokens -/

namespace Binary64

theorem lt_quantum_mul (q : Nat) : q < 2 ^ 53 * quantum q := by
  unfold quantum
  split
  · next small =>
      rw [Nat.one_shiftLeft] at small
      omega
  · next large =>
      rw [Nat.one_shiftLeft, Nat.not_lt] at large
      have bits : 53 ≤ q.log2 := (Nat.le_log2 (by omega)).mpr large
      calc q < 2 ^ (q.log2 + 1) := Nat.lt_log2_self
        _ = 2 ^ 53 * 1 <<< (q.log2 - 52) := by
            rw [Nat.one_shiftLeft, ← Nat.pow_add]
            congr 1
            omega

/-- Every result of an operation is representable. -/
theorem representable_rounded (num den : Nat) : Representable (rounded num den).units := by
  obtain ⟨k, step, _⟩ := quantum_eq (num / den)
  have few : num / (den * quantum (num / den)) < 2 ^ 53 := by
    rw [← Nat.div_div_eq_div_mul, Nat.div_lt_iff_lt_mul (quantum_pos _)]
    exact lt_quantum_mul _
  refine ⟨nearest num (den * quantum (num / den)), k, ?_, by rw [← step]; rfl⟩
  exact Nat.le_trans (nearest_le_succ _ _) few

theorem Representable.sub_two_pow {x k : Nat} (h : Representable x) (one : 2 ^ k ≤ x)
    (most : x ≤ 2 ^ 53 * 2 ^ k) : Representable (x - 2 ^ k) := by
  obtain ⟨m, e, few, rfl⟩ := h
  rcases Nat.le_total e k with fine | coarse
  · -- the power is a multiple of the spacing
    refine ⟨m - 2 ^ (k - e), e, Nat.le_trans (Nat.sub_le _ _) few, ?_⟩
    rw [Nat.sub_mul, ← Nat.pow_add, Nat.sub_add_cancel fine]
  · -- the number is a multiple of the power
    have whole : m * 2 ^ e = m * 2 ^ (e - k) * 2 ^ k := by
      rw [Nat.mul_assoc, ← Nat.pow_add, Nat.sub_add_cancel coarse]
    rw [whole] at most ⊢
    have bound := Nat.le_of_mul_le_mul_right most (Nat.two_pow_pos k)
    refine ⟨m * 2 ^ (e - k) - 1, k, Nat.le_trans (Nat.sub_le _ _) bound, ?_⟩
    rw [Nat.sub_mul, Nat.one_mul]

/-- One token less is representable too. -/
theorem Representable.sub_scale {x : Nat} (h : Representable x) (one : scale ≤ x)
    (most : x ≤ 2 ^ 53 * scale) : Representable (x - scale) := by
  unfold scale at one most ⊢
  generalize 1074 = k at one most ⊢
  rw [Nat.one_shiftLeft] at one most ⊢
  exact h.sub_two_pow one most

end Binary64

namespace Bucket

open Binary64

variable {b : Bucket Binary64} (exact : Representable b.tokens.units)

include exact

theorem spent_units (one : scale ≤ b.tokens.units) (most : b.tokens.units ≤ 2 ^ 53 * scale) :
    b.spent.tokens.units = b.tokens.units - scale := by
  have left := exact.sub_scale one most
  exact Nat.le_antisymm (spent_le left (by omega)) (le_spent left (by omega))

theorem refilled_units_self {now : Nat} (stamped : b.updated = now) {capacity : Binary64}
    (fits : b.tokens.units ≤ capacity.units) (rate : Binary64) :
    (b.refilled capacity rate now).tokens.units = b.tokens.units :=
  Nat.le_antisymm (refilled_now_le exact stamped rate (Nat.le_refl _))
    (le_refilled_now exact stamped rate (Nat.le_refl _) fits)

end Bucket

namespace Limiter

open Binary64

/-! ## One check -/

/-- The whole tokens that a check of the client would find. -/
def Timed.stock (t : Timed Binary64) (a : Address) : Nat := (t.ready a).tokens.units / scale

section Stock

variable {burst : Nat} (small : burst < 2 ^ 32) {t : Timed Binary64}
  (capacity : t.limiter.capacity = Binary64.ofNat burst) (a : Address)

include small capacity

theorem capacity_units : t.limiter.capacity.units = burst * scale := by
  rw [capacity]
  exact ofNat_units (by omega)

theorem stock_le : t.stock a ≤ burst := by
  have full := t.ready_le_capacity a
  rw [capacity_units small capacity] at full
  exact Nat.div_le_of_le_mul (by rw [Nat.mul_comm]; exact full)

theorem stock_of_none (new : t.limiter.bucket? a = none) : t.stock a = burst := by
  unfold Timed.stock
  rw [ready_new small new capacity, Nat.mul_div_cancel burst scale_pos]

theorem representable_ready : Representable (t.ready a).tokens.units := by
  have whole := representable_whole (n := burst) (by omega)
  rw [← capacity_units small capacity] at whole
  unfold Timed.ready
  rw [Bucket.refilled_units]
  rcases min_choice (add (t.limiter.found t.now a).tokens (mul (seconds
    (t.now - (t.limiter.found t.now a).updated)) t.limiter.rate)).units
    t.limiter.capacity.units with under | above
  · rw [under]
    exact representable_rounded _ 1
  · rw [above]
    exact whole

omit small capacity in
theorem outcome_check : (t.step (.check a)).1 = some (decide (0 < t.stock a)) := by
  have token : 0 < t.stock a ↔ scale ≤ (t.ready a).tokens.units :=
    Nat.div_pos_iff.trans ⟨And.right, fun enough => ⟨scale_pos, enough⟩⟩
  by_cases enough : scale ≤ (t.ready a).tokens.units
  · rw [Timed.step_check_granted enough, decide_eq_true (token.mpr enough)]
  · rw [Timed.step_check_denied enough, decide_eq_false fun some => enough (token.mp some)]

/-- A granted check takes one of the tokens, and a denied one leaves none. -/
theorem stock_check : (t.step (.check a)).2.stock a = t.stock a - 1 := by
  have exact := representable_ready small capacity a
  have full := t.ready_le_capacity a
  have stamped : (t.ready a).updated = t.now := rfl
  have most : (t.ready a).tokens.units ≤ 2 ^ 53 * scale := by
    rw [capacity_units small capacity] at full
    exact Nat.le_trans full (Nat.mul_le_mul_right scale (by omega))
  unfold Timed.stock
  by_cases enough : scale ≤ (t.ready a).tokens.units
  · have spent := Bucket.spent_units exact enough most
    have left := exact.sub_scale enough most
    rw [← spent] at left
    rw [Timed.step_check_granted enough]
    dsimp only
    rw [Timed.ready_leaving, Bucket.refilled_units_self left stamped (by omega), spent,
      Nat.div_eq_sub_div scale_pos enough, Nat.add_sub_cancel]
  · rw [Timed.step_check_denied enough]
    dsimp only
    rw [Timed.ready_leaving, Bucket.refilled_units_self exact stamped full,
      Nat.div_eq_of_lt (Nat.lt_of_not_le enough)]

end Stock

/-! ## Checks at one instant -/

/-- The step moves the clock. -/
def Step.isAdvance : Step → Bool
  | .advance _ => true
  | _ => false

section Settled

variable {α : Type}

/-- The bucket of the client was stamped at this instant, if there is one. -/
def Timed.Settled (t : Timed α) (a : Address) : Prop :=
  ∀ b ∈ t.limiter.bucket? a, b.updated = t.now

variable [TokenArithmetic α] {t : Timed α} {a : Address}

theorem settled_check (t : Timed α) (a : Address) : (t.step (.check a)).2.Settled a :=
  fun _ kept => updated_check (t := t) kept

variable {next : Step} (other : .check a ≠ next) (still : next.isAdvance = false)

include still in
theorem step_now : (t.step next).2.now = t.now := by
  cases next with
  | check c => rfl
  | advance nanos => exact Bool.noConfusion still
  | prune maxIdle => rfl

include other still

/-- No other step at this instant changes the bucket of a settled client. -/
theorem bucket?_of_settled (distinct : t.limiter.Distinct) (h : t.Settled a) :
    (t.step next).2.limiter.bucket? a = t.limiter.bucket? a := by
  cases next with
  | check c => exact bucket?_check_of_ne t.limiter t.now fun same => other (by rw [same])
  | advance nanos => exact Bool.noConfusion still
  | prune maxIdle =>
      show (t.limiter.prune t.now maxIdle).bucket? a = t.limiter.bucket? a
      rw [bucket?_prune distinct]
      cases kept : t.limiter.bucket? a with
      | none => rfl
      | some b =>
          -- it has not been idle at all
          rw [Option.filter_some, h b kept, Nat.sub_self, decide_eq_true (Nat.zero_le maxIdle)]
          rfl

theorem Timed.Settled.step (h : t.Settled a) (distinct : t.limiter.Distinct) :
    (t.step next).2.Settled a ∧ (t.step next).2.limiter.found (t.step next).2.now a =
      t.limiter.found t.now a := by
  have same := bucket?_of_settled other still distinct h
  unfold Timed.Settled found
  rw [same, step_now still, step_capacity]
  exact ⟨h, rfl⟩

end Settled

/-- What as many checks return where there are that many tokens. -/
def outcomes (tokens asked : Nat) : List Bool :=
  List.replicate (min asked tokens) true ++ List.replicate (asked - tokens) false

theorem outcomes_succ (tokens asked : Nat) :
    outcomes tokens (asked + 1) = decide (0 < tokens) :: outcomes (tokens - 1) asked := by
  unfold outcomes
  cases tokens with
  | zero => simp [List.replicate_succ]
  | succ tokens => simp [List.replicate_succ]

section Window

variable {burst : Nat} (small : burst < 2 ^ 32) {t : Timed Binary64} {a : Address}

theorem stock_step (distinct : t.limiter.Distinct) (h : t.Settled a) {next : Step}
    (other : .check a ≠ next) (still : next.isAdvance = false) :
    (t.step next).2.Settled a ∧ (t.step next).2.stock a = t.stock a := by
  obtain ⟨settled, found⟩ := h.step other still distinct
  refine ⟨settled, ?_⟩
  unfold Timed.stock Timed.ready
  rw [found, step_now still, step_capacity, step_rate]

include small

theorem checksOf_check_cons (capacity : t.limiter.capacity = Binary64.ofNat burst)
    {rest : List Step} (after : (t.step (.check a)).2.checksOf a rest =
      outcomes ((t.step (.check a)).2.stock a) (rest.count (.check a))) :
    t.checksOf a (.check a :: rest) =
      outcomes (t.stock a) ((Step.check a :: rest).count (.check a)) := by
  rw [Timed.checksOf_cons, if_pos rfl, outcome_check, after, stock_check small capacity,
    List.count_cons_self, outcomes_succ]
  rfl

/-- The checks of a settled client are granted as far as the stock goes. -/
theorem checksOf_settled (capacity : t.limiter.capacity = Binary64.ofNat burst)
    (distinct : t.limiter.Distinct) (h : t.Settled a) {window : List Step}
    (still : ∀ next ∈ window, next.isAdvance = false) :
    t.checksOf a window = outcomes (t.stock a) (window.count (.check a)) := by
  induction window generalizing t with
  | nil => simp [outcomes, Timed.checksOf, Timed.run]
  | cons next rest ih =>
      obtain ⟨here, later⟩ := List.forall_mem_cons.mp still
      have capacity' := (step_capacity t next).trans capacity
      have distinct' : (t.step next).2.limiter.Distinct := distinct_run distinct [next]
      by_cases own : .check a = next
      · subst own
        exact checksOf_check_cons small capacity (ih capacity' distinct' (settled_check t a) later)
      · obtain ⟨settled, same⟩ := stock_step distinct h own here
        rw [Timed.checksOf_cons, if_neg (Ne.symm own), List.nil_append,
          ih capacity' distinct' settled later, same, List.count_cons_of_ne (Ne.symm own)]

/-- Whatever a client has before its first check, there is such a stock. -/
theorem exists_checksOf_eq (capacity : t.limiter.capacity = Binary64.ofNat burst)
    (distinct : t.limiter.Distinct) (a : Address) {window : List Step}
    (still : ∀ next ∈ window, next.isAdvance = false) :
    ∃ tokens ≤ burst, t.checksOf a window = outcomes tokens (window.count (.check a)) := by
  induction window generalizing t with
  | nil => exact ⟨0, Nat.zero_le _, by simp [outcomes, Timed.checksOf, Timed.run]⟩
  | cons next rest ih =>
      obtain ⟨here, later⟩ := List.forall_mem_cons.mp still
      have capacity' := (step_capacity t next).trans capacity
      have distinct' : (t.step next).2.limiter.Distinct := distinct_run distinct [next]
      by_cases own : .check a = next
      · -- from here on the client is settled
        subst own
        exact ⟨t.stock a, stock_le small capacity a, checksOf_check_cons small capacity
          (checksOf_settled small capacity' distinct' (settled_check t a) later)⟩
      · obtain ⟨tokens, few, outcomes⟩ := ih capacity' distinct' later
        refine ⟨tokens, few, ?_⟩
        rw [Timed.checksOf_cons, if_neg (Ne.symm own), List.nil_append, outcomes,
          List.count_cons_of_ne (Ne.symm own)]

end Window

/-- **Bursts.**  Between two movements of the clock, after any history, the checks of a client are
granted one after the other and then denied, however they stand among checks of others and pruning.
No more than a burst of them are granted, and for a client without a bucket it is a burst
exactly. -/
theorem burst_at_once (s : LimitSettings) (history window : List Step) (a : Address)
    (still : ∀ step ∈ window, step.isAdvance = false) :
    let t := (Timed.run ⟨0, .ofSettings s⟩ history).2
    let asked := window.count (.check a)
    let granted := t.grants a window
    t.checksOf a window =
        List.replicate granted true ++ List.replicate (asked - granted) false ∧
      granted ≤ s.burst.toNat ∧
      (t.limiter.bucket? a = none → granted = min asked s.burst.toNat) := by
  intro t asked granted
  have small := s.burst.toNat_lt
  have capacity : t.limiter.capacity = Binary64.ofNat s.burst.toNat :=
    (run_settings ⟨0, .ofSettings s⟩ history).2
  have distinct : t.limiter.Distinct := distinct_run (distinct_ofSettings s) history
  have counted : ∀ tokens, t.checksOf a window = outcomes tokens asked →
      granted = min asked tokens := by
    intro tokens eq
    show (t.checksOf a window).count true = _
    rw [eq]
    simp [outcomes, List.count_replicate]
  obtain ⟨tokens, few, eq⟩ := exists_checksOf_eq small capacity distinct a still
  refine ⟨?_, ?_, fun new => ?_⟩
  · rw [eq, counted tokens eq]
    unfold outcomes
    congr 2
    omega
  · rw [counted tokens eq]
    omega
  · have settled : t.Settled a := by
      intro b kept
      rw [new] at kept
      exact absurd kept (Option.not_mem_none b)
    have full := checksOf_settled small capacity distinct settled still
    rw [stock_of_none small capacity a new] at full
    exact counted _ full

/-- Three tokens a second and a burst of two.  A client without a bucket is granted two of three
checks, with others and pruning in between; after half a second it has one and a half tokens and
is granted one. -/
theorem burst_at_once_fractional :
    let a : Address := .v4 0x01020304#32
    let c : Address := .v4 0x05060708#32
    let s : LimitSettings := { enabled := true, requestsPerSecond := 3, burst := 2 }
    let history : List Step := [.check c, .advance 7, .prune 5]
    let window : List Step := [.check a, .prune 0, .check c, .check a, .prune 0, .check a]
    let later : List Step := history ++ window ++ [.advance 500000000]
    let t := (Timed.run ⟨0, .ofSettings s⟩ history).2
    let t' := (Timed.run ⟨0, .ofSettings s⟩ later).2
    (∀ step ∈ window, step.isAdvance = false) ∧ t.limiter.bucket? a = none ∧
      t.grants a window = min 3 2 ∧ t.checksOf a window = [true, true, false] ∧
      t'.grants a window ≤ 2 ∧ t'.checksOf a window = [true, false, false] := by
  intro a c s history window later t t'
  have still : ∀ step ∈ window, step.isAdvance = false := by decide
  have new : t.limiter.bucket? a = none := by decide +kernel
  have one : t'.grants a window = 1 := by decide +kernel
  obtain ⟨order, _, exact⟩ := burst_at_once s history window a still
  obtain ⟨order', few, _⟩ := burst_at_once s later window a still
  have two := exact new
  refine ⟨still, new, two, ?_, few, ?_⟩
  · rw [two] at order
    exact order
  · rw [one] at order'
    exact order'

end Limiter

end ClientOrigin
