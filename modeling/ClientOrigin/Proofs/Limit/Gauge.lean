import ClientOrigin.Proofs.Limit.Grid

/-!
# Counting tokens exactly

The numbers in a bucket stand for tokens, whatever arithmetic they are in, and a refill is off by
no more than an error from what comes in exactly.  A gauge says so of one arithmetic.

* `Gauge` — what the numbers stand for, and how far they may be off;
* `Gauge.level` — the exact count that a bucket will have at a later time.  Refills add up in it
  (`level_later`), so two buckets do not drift apart while nobody asks them
  (`abs_level_sub_later_le`);
* `Gauge.Sound` — the gauge applies to all buckets of a limiter, and every step keeps that;
* `Gauge.exactly`, `Gauge.rounded` and `Gauge.onGrid` — exact numbers, rounded ones, and rounded
  ones at times that are binary fractions.
-/

namespace ClientOrigin

open TokenArithmetic

namespace Bucket

variable {α : Type} [TokenArithmetic α]

/-- What an exact bucket with these tokens has at a later time, if nobody asks it before. -/
def level (value : α → Rat) (capacity rate : α) (b : Bucket α) (time : Nat) : Rat :=
  min (value b.tokens + income (value rate) (time - b.updated)) (value capacity)

theorem acquire_eq (b : Bucket α) (capacity rate : α) (now : Nat) :
    b.acquire capacity rate now =
      ((b.refilled capacity rate now).hasToken,
        if (b.refilled capacity rate now).hasToken then (b.refilled capacity rate now).spent
        else b.refilled capacity rate now) := by
  cases token : (b.refilled capacity rate now).hasToken with
  | true => exact acquire_of_token token
  | false => exact acquire_of_no_token (by rw [token]; exact Bool.false_ne_true)

end Bucket

namespace Limiter

open Bucket

variable {α : Type} [TokenArithmetic α]

/-! ## Buckets after a step -/

theorem found_check_self (l : Limiter α) (now : Nat) (a : Address) :
    (l.check now a).2.found now a = ((l.found now a).acquire l.capacity l.rate now).2 := by
  unfold found
  rw [bucket?_check_self, Option.getD_some]
  rfl

theorem found_check_of_ne (t : Timed α) (time : Nat) {a c : Address} (other : c ≠ a) :
    (t.step (.check a)).2.limiter.found time c = t.limiter.found time c := by
  show (t.limiter.check t.now a).2.found time c = _
  unfold found
  rw [bucket?_check_of_ne t.limiter t.now other]
  rfl

omit [TokenArithmetic α] in
/-- A bucket waits as it is, and one that does not exist yet stays full. -/
theorem found_later (l : Limiter α) (now nanos : Nat) (a : Address) :
    l.found (now + nanos) a = l.found now a ∨
      l.found now a = .full l.capacity now ∧
        l.found (now + nanos) a = .full l.capacity (now + nanos) := by
  unfold found
  cases l.bucket? a with
  | none => exact .inr ⟨rfl, rfl⟩
  | some b => exact .inl rfl

/-! ## Gauges -/

/-- What the numbers of a limiter stand for.  Numbers that fit are refilled and spent as exact ones
up to an error, provided that the clock moves by whole ticks. -/
structure Gauge (α : Type) [TokenArithmetic α] (capacity rate : α) where
  value : α → Rat
  Fits : α → Prop
  tick : Nat
  error : Rat
  steady : 0 ≤ value rate
  full : Fits capacity
  hasToken_iff : ∀ b : Bucket α, Fits b.tokens → (b.hasToken = true ↔ 1 ≤ value b.tokens)
  refilled : ∀ (b : Bucket α) (now : Nat), Fits b.tokens → tick ∣ now - b.updated →
    Fits (b.refilled capacity rate now).tokens ∧
      |value (b.refilled capacity rate now).tokens - b.level value capacity rate now| ≤ error
  spent : ∀ b : Bucket α, Fits b.tokens → b.hasToken = true →
    Fits b.spent.tokens ∧ |value b.spent.tokens - (value b.tokens - 1)| ≤ error

namespace Gauge

variable {capacity rate : α} (g : Gauge α capacity rate)

/-- The exact count of a bucket at a later time. -/
def level (b : Bucket α) (time : Nat) : Rat := b.level g.value capacity rate time

theorem error_nonneg : 0 ≤ g.error := by
  obtain ⟨_, near⟩ := g.refilled (.full capacity 0) 0 g.full (Nat.sub_self 0 ▸ Nat.dvd_zero _)
  exact le_trans (abs_nonneg _) near

theorem level_full (now time : Nat) : g.level (.full capacity now) time = g.value capacity :=
  min_eq_right (le_add_of_nonneg_right (income_nonneg g.steady _))

section Levels

variable {b b' : Bucket α} {now time : Nat}

/-- Refills add up. -/
theorem level_later (stamped : b.updated ≤ now) (later : now ≤ time) :
    g.level b time =
      min (g.level b now + income (g.value rate) (time - now)) (g.value capacity) := by
  have passed : time - b.updated = (now - b.updated) + (time - now) := by omega
  have gain := income_nonneg g.steady (time - now)
  unfold level Bucket.level
  rw [passed, income_add, ← min_add_add_right, min_assoc,
    min_eq_right (le_add_of_nonneg_right gain), add_assoc]

/-- Two counts do not drift apart while nobody asks. -/
theorem abs_level_sub_later_le (stamped : b.updated ≤ now) (stamped' : b'.updated ≤ now)
    (later : now ≤ time) :
    |g.level b time - g.level b' time| ≤ |g.level b now - g.level b' now| := by
  rw [g.level_later stamped later, g.level_later stamped' later]
  refine le_trans (abs_min_sub_min_le_max _ _ _ _) ?_
  rw [add_sub_add_right_eq_sub, sub_self, abs_zero, max_eq_left (abs_nonneg _)]

theorem abs_level_sub_le (same : b'.updated = b.updated) (time : Nat) :
    |g.level b time - g.level b' time| ≤ |g.value b.tokens - g.value b'.tokens| := by
  unfold level Bucket.level
  rw [same]
  refine le_trans (abs_min_sub_min_le_max _ _ _ _) ?_
  rw [add_sub_add_right_eq_sub, sub_self, abs_zero, max_eq_left (abs_nonneg _)]

end Levels

/-! ## Sound limiters -/

/-- All numbers of the limiter fit, and its stamps are on the clock's ticks and not in the
future. -/
structure Sound (t : Timed α) : Prop where
  capacity : t.limiter.capacity = capacity
  rate : t.limiter.rate = rate
  clock : g.tick ∣ t.now
  fits : ∀ a, g.Fits (t.limiter.found t.now a).tokens
  stamped : ∀ a, (t.limiter.found t.now a).updated ≤ t.now
  onTick : ∀ a, g.tick ∣ (t.limiter.found t.now a).updated

/-- The bucket of a client as a check would ask it. -/
def asked (_ : Gauge α capacity rate) (t : Timed α) (a : Address) : Bucket α :=
  (t.limiter.found t.now a).refilled capacity rate t.now

/-- The tokens that a check of a client would count. -/
def reading (t : Timed α) (a : Address) : Rat := g.value (g.asked t a).tokens

variable {g} {t : Timed α}

section Sound

variable (h : g.Sound t)

include h

theorem Sound.asked (a : Address) :
    g.Fits (g.asked t a).tokens ∧
      |g.reading t a - g.level (t.limiter.found t.now a) t.now| ≤ g.error :=
  g.refilled _ t.now (h.fits a) (Nat.dvd_sub h.clock (h.onTick a))

/-- The refill of a check is the count of the bucket before it, up to an error. -/
theorem Sound.level_asked (a : Address) :
    |g.level (g.asked t a) t.now - g.level (t.limiter.found t.now a) t.now| ≤ g.error := by
  rw [g.level_later (h.stamped a) (Nat.le_refl t.now)]
  refine le_trans (abs_min_sub_min_le_max _ _ _ _) ?_
  show max |g.reading t a + income (g.value rate) (t.now - t.now) - _| _ ≤ _
  rw [add_sub_add_right_eq_sub, sub_self (g.value capacity), abs_zero,
    max_eq_left (abs_nonneg _)]
  exact (h.asked a).2

/-- A check is granted exactly if it counts a token. -/
theorem Sound.outcome (a : Address) :
    (t.step (.check a)).1 = some (decide (1 ≤ g.reading t a)) := by
  have token := g.hasToken_iff (g.asked t a) (h.asked a).1
  show some ((t.limiter.found t.now a).acquire t.limiter.capacity t.limiter.rate t.now).1 = _
  rw [acquire_eq, h.capacity, h.rate, Option.some.injEq, Bool.eq_iff_iff, decide_eq_true_eq]
  exact token

/-- A check leaves the bucket that it has asked, without a token if it was granted. -/
theorem Sound.found_self (a : Address) :
    (t.step (.check a)).2.limiter.found t.now a =
      if 1 ≤ g.reading t a then (g.asked t a).spent else g.asked t a := by
  have token := g.hasToken_iff (g.asked t a) (h.asked a).1
  show (t.limiter.check t.now a).2.found t.now a = _
  rw [found_check_self, acquire_eq, h.capacity, h.rate]
  exact if_congr token rfl rfl

theorem Sound.check (a : Address) : g.Sound (t.step (.check a)).2 := by
  have asked := (h.asked a).1
  have found : ∀ c, g.Fits ((t.step (.check a)).2.limiter.found t.now c).tokens ∧
      ((t.step (.check a)).2.limiter.found t.now c).updated ≤ t.now ∧
      g.tick ∣ ((t.step (.check a)).2.limiter.found t.now c).updated := by
    intro c
    by_cases own : c = a
    · rw [own, h.found_self]
      split
      · next token =>
          have fits := (g.spent _ asked ((g.hasToken_iff _ asked).mpr token)).1
          exact ⟨fits, Nat.le_refl t.now, h.clock⟩
      · exact ⟨asked, Nat.le_refl t.now, h.clock⟩
    · rw [found_check_of_ne t t.now own]
      exact ⟨h.fits c, h.stamped c, h.onTick c⟩
  exact ⟨h.capacity, h.rate, h.clock, fun c => (found c).1, fun c => (found c).2.1,
    fun c => (found c).2.2⟩

theorem Sound.advance {nanos : Nat} (ticks : g.tick ∣ nanos) :
    g.Sound (t.step (.advance nanos)).2 := by
  have clock : g.tick ∣ t.now + nanos := Nat.dvd_add h.clock ticks
  have found : ∀ a, g.Fits (t.limiter.found (t.now + nanos) a).tokens ∧
      (t.limiter.found (t.now + nanos) a).updated ≤ t.now + nanos ∧
      g.tick ∣ (t.limiter.found (t.now + nanos) a).updated := by
    intro a
    rcases t.limiter.found_later t.now nanos a with same | ⟨_, fresh⟩
    · rw [same]
      exact ⟨h.fits a, Nat.le_add_right_of_le (h.stamped a), h.onTick a⟩
    · rw [fresh, h.capacity]
      exact ⟨g.full, Nat.le_refl _, clock⟩
  exact ⟨h.capacity, h.rate, clock, fun a => (found a).1, fun a => (found a).2.1,
    fun a => (found a).2.2⟩

/-- Time that passes changes nothing about what a bucket has at a later time. -/
theorem Sound.level_found_later (nanos : Nat) (a : Address) (time : Nat) :
    g.level (t.limiter.found (t.now + nanos) a) time =
      g.level (t.limiter.found t.now a) time := by
  rcases t.limiter.found_later t.now nanos a with same | ⟨before, after⟩
  · rw [same]
  · rw [before, after, h.capacity, level_full, level_full]

end Sound

/-! ## Three gauges -/

section Gauges

variable {rate burst : Nat}

variable (rate burst) in
/-- Exact numbers. -/
def exactly : Gauge Rat (ofNat burst) (ofNat rate) where
  value := id
  Fits _ := True
  tick := 1
  error := 0
  steady := Nat.cast_nonneg rate
  full := trivial
  hasToken_iff _ _ := hasToken_iff_one_le
  refilled b now _ _ := by
    refine ⟨trivial, ?_⟩
    rw [id, refilled_tokens]
    exact le_of_eq (abs_eq_zero.mpr (sub_self _))
  spent b _ _ := by
    refine ⟨trivial, ?_⟩
    rw [id, spent_tokens]
    exact le_of_eq (abs_eq_zero.mpr (sub_self _))

variable (smallRate : rate < 2 ^ 32) (smallBurst : burst < 2 ^ 32)

/-- Rounded numbers are off by a small part of the capacity. -/
def rounded : Gauge Binary64 (Binary64.ofNat burst) (Binary64.ofNat rate) where
  value := Binary64.value
  Fits x := x.value ≤ burst
  tick := 1
  error := burst / 2 ^ 50
  steady := Binary64.value_nonneg _
  full := le_of_eq (Binary64.value_ofNat (by omega))
  hasToken_iff b _ := (Bucket.hasToken_iff b).trans Binary64.one_le_value_iff.symm
  refilled b now _ _ := by
    have capacity : (Binary64.ofNat burst).value = burst := Binary64.value_ofNat (by omega)
    have steady : (Binary64.ofNat rate).value = rate := Binary64.value_ofNat (by omega)
    constructor
    · unfold Bucket.refilled
      dsimp only
      rw [Binary64.value_least, capacity]
      exact min_le_right _ _
    · unfold Bucket.level
      rw [capacity, steady]
      exact refilled_near (by omega) (by omega) b now
  spent b fits token := by
    have near := spent_near token
    have nonneg := Binary64.value_nonneg b.tokens
    have most : (burst : Rat) ≤ 2 ^ 32 := by exact_mod_cast Nat.le_of_lt smallBurst
    have off := abs_le.mp near
    constructor
    · linarith
    · linarith

/-- Rounded numbers are exact where the clock moves by 1/512 seconds at a time. -/
def onGrid : Gauge Binary64 (Binary64.ofNat burst) (Binary64.ofNat rate) where
  value := Binary64.value
  Fits x := ∃ m ≤ burst * 512, x.units = m * Binary64.grain
  tick := Binary64.tick
  error := 0
  steady := Binary64.value_nonneg _
  full := ⟨burst * 512, Nat.le_refl _, by
    rw [Binary64.ofNat_units (by omega), Binary64.whole_grain]⟩
  hasToken_iff b _ := (Bucket.hasToken_iff b).trans Binary64.one_le_value_iff.symm
  refilled b now fits ticks := by
    obtain ⟨m, room, tokens⟩ := fits
    obtain ⟨k, passed⟩ := ticks
    rw [Nat.mul_comm] at passed
    have units := refilled_onGrid smallRate smallBurst tokens room passed
    refine ⟨⟨_, Nat.min_le_right _ _, units⟩, le_of_eq (abs_eq_zero.mpr ?_)⟩
    have came : income rate (k * Binary64.tick) = k * rate / 512 := by
      unfold income Binary64.tick
      push_cast
      ring
    have capacity : (Binary64.ofNat burst).value = burst := Binary64.value_ofNat (by omega)
    have steady : (Binary64.ofNat rate).value = rate := Binary64.value_ofNat (by omega)
    unfold Bucket.level
    rw [capacity, steady, passed, came, Binary64.value_of_grain units,
      Binary64.value_of_grain tokens, Nat.cast_min, ← min_div_div_right (by norm_num)]
    push_cast
    rw [add_div, mul_div_cancel_right₀ _ (by norm_num), sub_self]
  spent b fits token := by
    obtain ⟨m, room, tokens⟩ := fits
    have units := spent_onGrid tokens (by omega)
    refine ⟨⟨m - 512, by omega, units⟩, le_of_eq (abs_eq_zero.mpr ?_)⟩
    have whole : 512 ≤ m := by
      rw [Bucket.hasToken_iff, tokens, Binary64.scale_eq_grain] at token
      exact Nat.le_of_mul_le_mul_right token Binary64.grain_pos
    rw [Binary64.value_of_grain units, Binary64.value_of_grain tokens, Nat.cast_sub whole]
    norm_num
    ring

end Gauges

end Gauge

end Limiter

end ClientOrigin
