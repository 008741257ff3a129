import ClientOrigin.Proofs.Limit.Isolation
import ClientOrigin.Proofs.Limit.Pruning
import Mathlib.Algebra.Order.Field.Rat
import Mathlib.Tactic.Linarith
import Mathlib.Tactic.Ring

/-!
# Rates over windows

How many checks of one client are granted in a window of a run, whenever the window begins and
whatever the other clients do.  The tokens are counted exactly here, without rounding.

* `Bucket.Sound` and `Sound` — tokens stay between none and the capacity, and stamps in the past;
* `credit` — what a check of the client would find.  A granted check takes one token of it, and
  time brings in no more than the rate says (`step_pays`);
* `grants_add_credit_le` — so over a window the grants are paid by the credit at its beginning and
  by what came in, and the credit at its beginning is at most a burst (`grants_le_of_window`).
-/

namespace ClientOrigin

open TokenArithmetic

/-! ## Exact buckets -/

namespace Bucket

/-- The tokens are between none and the capacity, and the stamp is not in the future. -/
structure Sound (capacity : Rat) (now : Nat) (b : Bucket Rat) : Prop where
  nonneg : 0 ≤ b.tokens
  le_capacity : b.tokens ≤ capacity
  updated : b.updated ≤ now

/-- What comes in at a rate during some time. -/
def income (rate : Rat) (nanos : Nat) : Rat := rate * (nanos / 1000000000)

theorem income_nonneg {rate : Rat} (h : 0 ≤ rate) (nanos : Nat) : 0 ≤ income rate nanos := by
  unfold income
  exact mul_nonneg h (div_nonneg nanos.cast_nonneg (by norm_num))

theorem income_mono {rate : Rat} (h : 0 ≤ rate) {nanos more : Nat} (le : nanos ≤ more) :
    income rate nanos ≤ income rate more := by
  have cast : (nanos : Rat) ≤ more := Nat.cast_le.mpr le
  unfold income
  gcongr

theorem income_add (rate : Rat) (nanos more : Nat) :
    income rate (nanos + more) = income rate nanos + income rate more := by
  unfold income
  push_cast
  ring

section Exact

variable {b : Bucket Rat} {capacity rate : Rat} {now : Nat}

theorem refilled_tokens :
    (b.refilled capacity rate now).tokens =
      min (b.tokens + income rate (now - b.updated)) capacity := by
  have came : mul (seconds (now - b.updated)) rate = income rate (now - b.updated) :=
    mul_comm _ _
  unfold refilled
  dsimp only
  rw [came, min_def]
  exact if_congr decide_eq_true_iff rfl rfl

theorem hasToken_iff_one_le : b.hasToken = true ↔ 1 ≤ b.tokens := by
  have one : (ofNat 1 : Rat) = 1 := Nat.cast_one
  unfold hasToken
  rw [one]
  exact decide_eq_true_iff

theorem spent_tokens : b.spent.tokens = b.tokens - 1 := by
  show b.tokens - ((1 : Nat) : Rat) = b.tokens - 1
  rw [Nat.cast_one]

theorem sound_full (h : 0 ≤ capacity) (now : Nat) : (full capacity now).Sound capacity now :=
  ⟨h, le_refl capacity, Nat.le_refl now⟩

theorem Sound.later (h : b.Sound capacity now) (nanos : Nat) : b.Sound capacity (now + nanos) :=
  { h with updated := Nat.le_add_right_of_le h.updated }

theorem Sound.refilled (h : b.Sound capacity now) (steady : 0 ≤ rate) :
    (b.refilled capacity rate now).Sound capacity now := by
  have came := income_nonneg steady (now - b.updated)
  have nonneg := h.nonneg
  have room := h.le_capacity
  refine ⟨?_, ?_, Nat.le_refl now⟩
  · rw [refilled_tokens]
    exact le_min (by linarith) (by linarith)
  · rw [refilled_tokens]
    exact min_le_right _ _

theorem Sound.spent (h : b.Sound capacity now) (token : b.hasToken = true) :
    b.spent.Sound capacity now := by
  have one := hasToken_iff_one_le.mp token
  have room := h.le_capacity
  refine ⟨?_, ?_, h.updated⟩
  · rw [spent_tokens]
    linarith
  · rw [spent_tokens]
    linarith

/-- A request leaves a sound bucket sound, granted or not. -/
theorem Sound.acquire (h : b.Sound capacity now) (steady : 0 ≤ rate) :
    (b.acquire capacity rate now).2.Sound capacity now := by
  have refilled := h.refilled steady
  by_cases token : (b.refilled capacity rate now).hasToken = true
  · rw [acquire_of_token token]
    exact refilled.spent token
  · rw [acquire_of_no_token token]
    exact refilled

/-- A sound bucket that was stamped at this instant has all its tokens already. -/
theorem Sound.refilled_now (h : b.Sound capacity now) (stamped : b.updated = now) (rate : Rat) :
    (b.refilled capacity rate now).tokens = b.tokens := by
  rw [refilled_tokens, stamped, Nat.sub_self]
  unfold income
  rw [Nat.cast_zero, zero_div, mul_zero, add_zero]
  exact min_eq_left h.le_capacity

end Exact

end Bucket

namespace Limiter

open Bucket

/-! ## Sound limiters -/

/-- The settings are no negative numbers, and all buckets are sound. -/
structure Sound (t : Timed Rat) : Prop where
  rate : 0 ≤ t.limiter.rate
  capacity : 0 ≤ t.limiter.capacity
  buckets : ∀ entry ∈ t.limiter.buckets, entry.2.Sound t.limiter.capacity t.now

theorem sound_start (rate burst : Nat) : Sound ⟨0, start rate burst⟩ where
  rate := Nat.cast_nonneg rate
  capacity := Nat.cast_nonneg burst
  buckets := by
    intro entry impossible
    exact absurd impossible List.not_mem_nil

section Steps

variable {t : Timed Rat}

theorem Sound.found (h : Sound t) (a : Address) :
    (t.limiter.found t.now a).Sound t.limiter.capacity t.now := by
  unfold Limiter.found
  cases kept : t.limiter.bucket? a with
  | none => exact sound_full h.capacity t.now
  | some b =>
      obtain ⟨front, back, split, _⟩ := List.lookup_eq_some_iff.mp kept
      have mem : (a, b) ∈ t.limiter.buckets := by
        rw [split]
        exact List.mem_append_right front List.mem_cons_self
      exact h.buckets (a, b) mem

theorem Sound.step (h : Sound t) (step : Step) : Sound (t.step step).2 := by
  cases step with
  | check a =>
      refine ⟨h.rate, h.capacity, ?_⟩
      intro entry mem
      rcases List.mem_cons.mp mem with rfl | other
      · exact (h.found a).acquire h.rate
      · exact h.buckets entry (List.mem_filter.mp other).1
  | advance nanos => exact ⟨h.rate, h.capacity, fun entry mem => (h.buckets entry mem).later nanos⟩
  | prune maxIdle =>
      exact ⟨h.rate, h.capacity, fun entry mem => h.buckets entry (List.mem_filter.mp mem).1⟩

theorem Sound.run (h : Sound t) (steps : List Step) : Sound (t.run steps).2 := by
  induction steps generalizing t with
  | nil => exact h
  | cons next rest ih => exact ih (h.step next)

/-! ## Credit -/

/-- The tokens that a check of a client would find. -/
def Timed.credit (t : Timed Rat) (a : Address) : Rat :=
  ((t.limiter.found t.now a).refilled t.limiter.capacity t.limiter.rate t.now).tokens

theorem credit_bounds (h : Sound t) (a : Address) :
    0 ≤ t.credit a ∧ t.credit a ≤ t.limiter.capacity :=
  have refilled := (h.found a).refilled h.rate
  ⟨refilled.nonneg, refilled.le_capacity⟩

/-- How many checks of a client are granted in a run. -/
def Timed.grants {α : Type} [TokenArithmetic α] (t : Timed α) (a : Address)
    (steps : List Step) : Nat :=
  (t.checksOf a steps).count true

theorem Timed.grants_cons {α : Type} [TokenArithmetic α] (t : Timed α) (a : Address) (step : Step)
    (rest : List Step) :
    t.grants a (step :: rest) = t.grants a [step] + (t.step step).2.grants a rest := by
  unfold grants
  rw [checksOf_cons, t.checksOf_cons a step [], List.count_append, List.count_append]
  rfl

/-- A granted check takes one token of the credit, and a denied one takes nothing. -/
theorem check_pays (h : Sound t) (a : Address) :
    (t.grants a [.check a] : Rat) + (t.step (.check a)).2.credit a = t.credit a := by
  have sound := (h.found a).refilled h.rate
  -- the next check finds what this one leaves
  have next : (t.step (.check a)).2.credit a =
      (((t.limiter.found t.now a).acquire t.limiter.capacity t.limiter.rate t.now).2.refilled
        t.limiter.capacity t.limiter.rate t.now).tokens := by
    show (((t.limiter.check t.now a).2.found t.now a).refilled _ _ _).tokens = _
    unfold Limiter.found
    rw [bucket?_check_self]
    rfl
  have granted : t.grants a [.check a] =
      [((t.limiter.found t.now a).acquire t.limiter.capacity t.limiter.rate t.now).1].count
        true := by
    unfold Timed.grants
    rw [Timed.checksOf_cons, if_pos rfl]
    rfl
  rw [next, granted]
  unfold Timed.credit
  by_cases token :
      ((t.limiter.found t.now a).refilled t.limiter.capacity t.limiter.rate t.now).hasToken = true
  · rw [acquire_of_token token, (sound.spent token).refilled_now rfl _, spent_tokens]
    norm_num
  · rw [acquire_of_no_token token, sound.refilled_now rfl _]
    norm_num

/-- A check of somebody else leaves the credit alone. -/
theorem credit_check_of_ne (t : Timed Rat) {a c : Address} (other : c ≠ a) :
    (t.step (.check c)).2.credit a = t.credit a := by
  show (((t.limiter.check t.now c).2.found t.now a).refilled _ _ _).tokens = t.credit a
  unfold Limiter.found
  rw [bucket?_check_of_ne _ _ (Ne.symm other)]
  rfl

/-- Time brings in no more than the rate says; above the capacity it brings in less. -/
theorem credit_advance_le (h : Sound t) (a : Address) (nanos : Nat) :
    (t.step (.advance nanos)).2.credit a ≤ t.credit a + income t.limiter.rate nanos := by
  have gain := income_nonneg h.rate nanos
  show ((t.limiter.found (t.now + nanos) a).refilled t.limiter.capacity t.limiter.rate
    (t.now + nanos)).tokens ≤ _
  unfold Timed.credit Limiter.found
  cases t.limiter.bucket? a with
  | none =>
      -- a bucket that does not exist yet is full at any time
      rw [Option.getD_none, Option.getD_none, (sound_full h.capacity t.now).refilled_now rfl _,
        (sound_full h.capacity (t.now + nanos)).refilled_now rfl _]
      exact le_add_of_nonneg_right gain
  | some b =>
      have time : t.now + nanos - b.updated ≤ t.now - b.updated + nanos := by omega
      have came := income_mono h.rate time
      rw [income_add] at came
      rw [Option.getD_some, Option.getD_some, refilled_tokens, refilled_tokens,
        ← min_add_add_right]
      exact min_le_min (by linarith) (by linarith)

/-- The clock, in seconds. -/
def Timed.clock (t : Timed Rat) : Rat := t.now / 1000000000

/-- What a step grants is paid by the credit before it and by what comes in during it. -/
theorem step_pays (h : Sound t) (a : Address) {step : Step} (kept : step.isPrune = false) :
    (t.grants a [step] : Rat) + (t.step step).2.credit a ≤
      t.credit a + t.limiter.rate * ((t.step step).2.clock - t.clock) := by
  cases step with
  | check c =>
      have still : (t.step (.check c)).2.clock = t.clock := rfl
      rw [still, sub_self, mul_zero, add_zero]
      by_cases own : c = a
      · subst own
        exact le_of_eq (check_pays h c)
      · have none : t.grants a [.check c] = 0 := by
          unfold Timed.grants
          rw [Timed.checksOf_cons, if_neg fun equal => own (Step.check.inj equal)]
          rfl
        rw [none, credit_check_of_ne t own, Nat.cast_zero, zero_add]
  | advance nanos =>
      have passed : t.limiter.rate * ((t.step (.advance nanos)).2.clock - t.clock) =
          income t.limiter.rate nanos := by
        show t.limiter.rate * (((t.now + nanos : Nat) : Rat) / 1000000000 - t.now / 1000000000) = _
        unfold income
        push_cast
        ring
      have none : t.grants a [.advance nanos] = 0 := rfl
      rw [passed, none, Nat.cast_zero, zero_add]
      exact credit_advance_le h a nanos
  | prune maxIdle => exact Bool.noConfusion kept

end Steps

/-! ## Windows -/

/-- The invariant is that the credit is what is left of the payments. -/
theorem grants_add_credit_le {t : Timed Rat} (h : Sound t) (a : Address) {window : List Step}
    (kept : ∀ step ∈ window, step.isPrune = false) :
    (t.grants a window : Rat) + (t.run window).2.credit a ≤
      t.credit a + t.limiter.rate * ((t.run window).2.clock - t.clock) := by
  induction window generalizing t with
  | nil =>
      show ((0 : Nat) : Rat) + t.credit a ≤ t.credit a + t.limiter.rate * (t.clock - t.clock)
      rw [sub_self, mul_zero, Nat.cast_zero, zero_add, add_zero]
  | cons step rest ih =>
      have here := step_pays h a (kept step List.mem_cons_self)
      have later := ih (h.step step) fun next mem => kept next (List.mem_cons_of_mem step mem)
      rw [step_rate] at later
      rw [Timed.grants_cons, Timed.run_cons, Nat.cast_add]
      dsimp only
      linarith

/-- **Bounded rate.**  After any run of a limiter from its start, pruned or not, every bucket has
between none and `burst` tokens and was stamped no later than now.  From there on, in a window
without pruning, the checks of one client that are granted are at most the burst and what comes in
during the window. -/
theorem grants_le_of_window (rate burst : Nat) (before : List Step) :
    let t : Timed Rat := (Timed.run ⟨0, start rate burst⟩ before).2
    (∀ entry ∈ t.limiter.buckets,
      0 ≤ entry.2.tokens ∧ entry.2.tokens ≤ burst ∧ entry.2.updated ≤ t.now) ∧
    ∀ (a : Address) (window : List Step), (∀ step ∈ window, step.isPrune = false) →
      (t.grants a window : Rat) ≤ burst + rate * ((t.run window).2.clock - t.clock) := by
  intro t
  have sound : Sound t := (sound_start rate burst).run before
  obtain ⟨sameRate, sameCapacity⟩ : t.limiter.rate = rate ∧ t.limiter.capacity = burst :=
    run_settings ⟨0, start rate burst⟩ before
  constructor
  · intro entry mem
    obtain ⟨nonneg, room, updated⟩ := sound.buckets entry mem
    rw [sameCapacity] at room
    exact ⟨nonneg, room, updated⟩
  · intro a window kept
    have paid := grants_add_credit_le sound a kept
    have left := (credit_bounds (sound.run window) a).1
    have first := (credit_bounds sound a).2
    rw [sameRate] at paid
    rw [sameCapacity] at first
    linarith

/-- Two requests a second and a burst of two: in a window of half a second that begins with a full
bucket, three checks are granted and the fourth is denied, so the bound is attained. -/
theorem grants_le_of_window_attained :
    let a : Address := .v4 0x01020304#32
    let c : Address := .v4 0x05060708#32
    let t : Timed Rat :=
      (Timed.run ⟨0, start 2 2⟩ [.check a, .check c, .advance 1000000000, .prune 0]).2
    let window : List Step :=
      [.check a, .check a, .advance 500000000, .check c, .check a, .check a]
    (∀ step ∈ window, step.isPrune = false) ∧
      (t.grants a window : Rat) ≤ 2 + 2 * ((t.run window).2.clock - t.clock) ∧
      t.checksOf a window = [true, true, true, false] ∧
      2 + 2 * ((t.run window).2.clock - t.clock) = 3 := by
  intro a c t window
  have kept : ∀ step ∈ window, step.isPrune = false := by decide
  have bound := (grants_le_of_window 2 2
    [.check a, .check c, .advance 1000000000, .prune 0]).2 a window kept
  exact ⟨kept, bound, by decide +kernel, by decide +kernel⟩

end Limiter

end ClientOrigin
