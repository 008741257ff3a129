import ClientOrigin.Proofs.Limit.Instant
import ClientOrigin.Service.Application
import ClientOrigin.Settings.Problem

/-!
# Pruning and its clients

A client that was pruned finds a full bucket.  Pruning is invisible where a bucket that may be
dropped would be full again anyway.

* `Refills` says so of a rate, a capacity and an idle time, in any arithmetic;
* `Matches` relates a run to the same run without pruning; `check_matches`, `advance_matches` and
  `prune_matches` are the step lemmas and `checks_withoutPruning` is the run lemma;
* `pruning_invisible_iff` says for which settings the idle time of the server is long enough.
-/

namespace ClientOrigin.Limiter

open TokenArithmetic

/-! ## Runs without pruning -/

/-- The step drops idle buckets. -/
def Step.isPrune : Step → Bool
  | .prune _ => true
  | _ => false

/-- The other steps of a run. -/
def withoutPruning (steps : List Step) : List Step := steps.filter fun step => !step.isPrune

variable {α : Type} [TokenArithmetic α]

/-- A bucket is full when nobody asked it for longer than `maxIdle`, and a full one stays so. -/
structure Refills (capacity rate : α) (maxIdle : Nat) : Prop where
  idle : ∀ (b : Bucket α) (now : Nat), maxIdle < now - b.updated →
    b.refilled capacity rate now = Bucket.full capacity now
  fresh : ∀ now, (Bucket.full capacity now).refilled capacity rate now = Bucket.full capacity now

/-- The limiter `u` lacks nothing that `t` has but buckets that were idle too long. -/
structure Matches (maxIdle : Nat) (t u : Timed α) : Prop where
  now : u.now = t.now
  rate : u.limiter.rate = t.limiter.rate
  capacity : u.limiter.capacity = t.limiter.capacity
  distinct : u.limiter.Distinct
  bucket : ∀ a, u.limiter.bucket? a = t.limiter.bucket? a ∨
    u.limiter.bucket? a = none ∧
      ∃ b, t.limiter.bucket? a = some b ∧ maxIdle < t.now - b.updated

section Steps

variable {maxIdle : Nat} {t u : Timed α}

/-- What a check finds is the same after the refill. -/
theorem acquire_found (refills : Refills t.limiter.capacity t.limiter.rate maxIdle)
    (h : Matches maxIdle t u) (a : Address) :
    (u.limiter.found u.now a).acquire u.limiter.capacity u.limiter.rate u.now =
      (t.limiter.found t.now a).acquire t.limiter.capacity t.limiter.rate t.now := by
  have refilled : (u.limiter.found t.now a).refilled t.limiter.capacity t.limiter.rate t.now =
      (t.limiter.found t.now a).refilled t.limiter.capacity t.limiter.rate t.now := by
    unfold found
    rw [h.capacity]
    rcases h.bucket a with same | ⟨dropped, b, kept, idle⟩
    · rw [same]
    · rw [dropped, kept, Option.getD_none, Option.getD_some, refills.fresh, refills.idle b _ idle]
  rw [h.now, h.rate, h.capacity]
  unfold Bucket.acquire
  rw [refilled]

/-- A check has the same outcome on both sides, and both keep the same bucket for its client. -/
theorem check_matches (refills : Refills t.limiter.capacity t.limiter.rate maxIdle)
    (h : Matches maxIdle t u) (a : Address) :
    (u.step (.check a)).1 = (t.step (.check a)).1 ∧
      Matches maxIdle (t.step (.check a)).2 (u.step (.check a)).2 := by
  have same := acquire_found refills h a
  refine ⟨congrArg (fun outcome : Bool × Bucket α => some outcome.1) same, ?_⟩
  refine ⟨h.now, h.rate, h.capacity, distinct_check h.distinct u.now a, ?_⟩
  intro c
  by_cases own : c = a
  · subst own
    refine .inl ?_
    show (u.limiter.check u.now c).2.bucket? c = (t.limiter.check t.now c).2.bucket? c
    rw [bucket?_check_self, bucket?_check_self, same]
  · -- the other clients keep what they had, on both sides
    show (u.limiter.check u.now a).2.bucket? c = (t.limiter.check t.now a).2.bucket? c ∨
      (u.limiter.check u.now a).2.bucket? c = none ∧
        ∃ b, (t.limiter.check t.now a).2.bucket? c = some b ∧ maxIdle < t.now - b.updated
    rw [bucket?_check_of_ne _ _ own, bucket?_check_of_ne _ _ own]
    exact h.bucket c

theorem advance_matches (h : Matches maxIdle t u) (nanos : Nat) :
    Matches maxIdle (t.step (.advance nanos)).2 (u.step (.advance nanos)).2 := by
  refine ⟨congrArg (· + nanos) h.now, h.rate, h.capacity, h.distinct, ?_⟩
  intro a
  rcases h.bucket a with same | ⟨dropped, b, kept, idle⟩
  · exact .inl same
  · refine .inr ⟨dropped, b, kept, ?_⟩
    show maxIdle < t.now + nanos - b.updated
    omega

theorem prune_matches (h : Matches maxIdle t u) :
    Matches maxIdle t (u.step (.prune maxIdle)).2 := by
  refine ⟨h.now, h.rate, h.capacity, distinct_prune h.distinct u.now maxIdle, ?_⟩
  intro a
  show (u.limiter.prune u.now maxIdle).bucket? a = t.limiter.bucket? a ∨
    (u.limiter.prune u.now maxIdle).bucket? a = none ∧ _
  rw [bucket?_prune h.distinct, h.now]
  rcases h.bucket a with same | ⟨dropped, late⟩
  · rw [same]
    cases kept : t.limiter.bucket? a with
    | none => exact .inl rfl
    | some b =>
        -- a bucket that is dropped now has been idle too long, so the relation allows for it
        rw [Option.filter_some]
        by_cases idle : t.now - b.updated ≤ maxIdle
        · rw [decide_eq_true idle]
          exact .inl rfl
        · rw [decide_eq_false idle]
          exact .inr ⟨rfl, b, rfl, Nat.lt_of_not_le idle⟩
  · rw [dropped]
    exact .inr ⟨rfl, late⟩

/-- Without pruning the checks of a run return the same: the invariant is `Matches`. -/
theorem checks_withoutPruning (refills : Refills t.limiter.capacity t.limiter.rate maxIdle)
    (h : Matches maxIdle t u) {steps : List Step}
    (own : ∀ idle, .prune idle ∈ steps → idle = maxIdle) :
    u.checks steps = t.checks (withoutPruning steps) := by
  induction steps generalizing t u with
  | nil => rfl
  | cons next rest ih =>
      have ownRest : ∀ idle, .prune idle ∈ rest → idle = maxIdle := fun idle mem =>
        own idle (List.mem_cons_of_mem next mem)
      cases next with
      | check a =>
          obtain ⟨outcome, matched⟩ := check_matches refills h a
          have later := ih (t := (t.step (.check a)).2) refills matched ownRest
          show u.checks (.check a :: rest) = t.checks (.check a :: withoutPruning rest)
          rw [Timed.checks_cons, Timed.checks_cons, outcome, later]
      | advance nanos =>
          have later := ih (t := (t.step (.advance nanos)).2) refills
            (advance_matches h nanos) ownRest
          show u.checks (.advance nanos :: rest) = t.checks (.advance nanos :: withoutPruning rest)
          rw [Timed.checks_advance, Timed.checks_advance, later]
      | prune idle =>
          obtain rfl := own idle List.mem_cons_self
          show u.checks (.prune idle :: rest) = t.checks (withoutPruning rest)
          rw [Timed.checks_prune, ih refills (prune_matches h) ownRest]

end Steps

/-! ## The idle time of the server -/

theorem refilled_eq_full {b : Bucket Binary64} {capacity rate : Binary64} {now : Nat}
    (enough : capacity.units ≤
      (Binary64.add b.tokens (Binary64.mul (Binary64.seconds (now - b.updated)) rate)).units) :
    b.refilled capacity rate now = Bucket.full capacity now := by
  have units : (least (add b.tokens (mul (seconds (now - b.updated)) rate)) capacity).units =
      capacity.units := by
    rw [Binary64.least_units]
    exact Nat.min_eq_right enough
  unfold Bucket.refilled Bucket.full
  rw [Binary64.eq_of_units units]

/-- Five minutes are enough for a burst of no more than 300 requests for each of the rate. -/
theorem refills_of_le {rate burst : Nat} (small : burst < 2 ^ 32) (slow : burst ≤ 300 * rate)
    (exact : rate < 2 ^ 32) :
    Refills (Binary64.ofNat burst) (Binary64.ofNat rate) serverIdle := by
  have capacity := Binary64.ofNat_units (n := burst) (by omega)
  have whole := Binary64.representable_whole (n := burst) (by omega)
  constructor
  · -- what came in during the idle time is enough, whatever was left
    intro b now idle
    apply refilled_eq_full
    rw [capacity]
    refine Binary64.le_add whole ?_
    have time : 300 * Binary64.scale ≤ (Binary64.seconds (now - b.updated)).units :=
      Binary64.le_seconds (by decide) (Nat.le_of_lt idle)
    have came := Binary64.le_mul_ofNat whole (n := rate) (by omega)
      (calc burst * Binary64.scale ≤ 300 * rate * Binary64.scale := Nat.mul_le_mul_right _ slow
        _ = 300 * Binary64.scale * rate := Nat.mul_right_comm _ _ _
        _ ≤ _ := Nat.mul_le_mul_right _ time)
    exact Nat.le_trans came (Nat.le_add_left _ _)
  · -- the capacity is a whole number, so adding nothing does not round it
    intro now
    apply refilled_eq_full
    rw [capacity]
    refine Binary64.le_add whole ?_
    show burst * Binary64.scale ≤ (Binary64.ofNat burst).units + _
    rw [capacity]
    exact Nat.le_add_right _ _

/-- A client that uses up its burst, is idle just longer than the idle time of the server, is
pruned, and asks as often again. -/
def idleRun (a : Address) (n : Nat) : List Step :=
  Timed.asking a n ++ .advance (serverIdle + 1) :: .prune serverIdle :: Timed.asking a n

theorem prune_mem_idleRun {a : Address} {n idle : Nat} (mem : .prune idle ∈ idleRun a n) :
    idle = serverIdle := by
  simpa [idleRun, Timed.asking] using mem

theorem withoutPruning_idleRun (a : Address) (n : Nat) :
    withoutPruning (idleRun a n) =
      Timed.asking a n ++ .advance (serverIdle + 1) :: Timed.asking a n := by
  simp [withoutPruning, idleRun, Timed.asking, Step.isPrune]

theorem seconds_idle_le :
    (Binary64.seconds (serverIdle + 1)).units ≤ 300 * Binary64.scale + 1 <<< 1045 := by
  decide +kernel

/-- What comes into a bucket in that time is less than half a token above what came in during the
idle time of the server. -/
theorem came_in_le {rate : Nat} (low : rate ≤ 2 ^ 28) :
    (Binary64.mul (Binary64.seconds (serverIdle + 1)) (Binary64.ofNat rate)).units ≤
      300 * rate * Binary64.scale + Binary64.half := by
  have rest : 1 <<< 1045 * 2 ^ 28 = Binary64.half := by decide +kernel
  refine Binary64.mul_ofNat_le (Binary64.representable_add_half (by omega)) (by omega) ?_
  calc _ ≤ (300 * Binary64.scale + 1 <<< 1045) * rate := Nat.mul_le_mul_right _ seconds_idle_le
    _ = 300 * rate * Binary64.scale + 1 <<< 1045 * rate := by
          rw [Nat.add_mul, Nat.mul_right_comm]
    _ ≤ 300 * rate * Binary64.scale + 1 <<< 1045 * 2 ^ 28 :=
          Nat.add_le_add_left (Nat.mul_le_mul_left _ low) _
    _ = 300 * rate * Binary64.scale + Binary64.half := by rw [rest]

/-- A client that has used up its tokens and been idle just longer than that. -/
theorem ready_idle_le {rate : Nat} (low : rate ≤ 2 ^ 28) {t : Timed Binary64} {a : Address}
    (steady : t.limiter.rate = Binary64.ofNat rate)
    (empty : t.limiter.bucket? a = some ⟨⟨0⟩, t.now⟩) :
    ((t.step (.advance (serverIdle + 1))).2.ready a).tokens.units ≤
      300 * rate * Binary64.scale + Binary64.half := by
  have found : t.limiter.found (t.now + (serverIdle + 1)) a = ⟨⟨0⟩, t.now⟩ := by
    unfold found
    rw [empty, Option.getD_some]
  show ((t.limiter.found (t.now + (serverIdle + 1)) a).refilled t.limiter.capacity t.limiter.rate
    (t.now + (serverIdle + 1))).tokens.units ≤ _
  rw [found, Bucket.refilled_units, steady, Nat.add_sub_cancel_left]
  refine Nat.le_trans (Nat.min_le_left _ _) ?_
  refine Binary64.add_le (Binary64.representable_add_half (by omega)) ?_
  rw [Nat.zero_add]
  exact came_in_le low

/-- The server drops the bucket of that client. -/
theorem bucket?_idle_prune {t : Timed Binary64} {a : Address} {tokens : Binary64}
    (distinct : t.limiter.Distinct) (kept : t.limiter.bucket? a = some ⟨tokens, t.now⟩) :
    ((t.step (.advance (serverIdle + 1))).2.step (.prune serverIdle)).2.limiter.bucket? a =
      none := by
  have late : ¬ t.now + (serverIdle + 1) - t.now ≤ serverIdle := by omega
  show (t.limiter.prune (t.now + (serverIdle + 1)) serverIdle).bucket? a = none
  rw [bucket?_prune distinct, kept, Option.filter_some, decide_eq_false late]
  rfl

section Visible

variable {rate burst : Nat} (small : burst < 2 ^ 32)

include small

/-- A client without a bucket is granted the burst. -/
theorem ready_new {t : Timed Binary64} {a : Address}
    (new : t.limiter.bucket? a = none)
    (capacity : t.limiter.capacity = Binary64.ofNat burst) :
    (t.ready a).tokens.units = burst * Binary64.scale := by
  have units : t.limiter.capacity.units = burst * Binary64.scale := by
    rw [capacity]
    exact Binary64.ofNat_units (by omega)
  have whole := Binary64.representable_whole (n := burst) (by omega)
  rw [← units] at whole ⊢
  exact Timed.ready_of_none new whole

/-- Five minutes are not enough for a larger burst: the pruned client gets all of it again, the
other one does not. -/
theorem idleRun_ne (fast : 300 * rate < burst) (a : Address) :
    Timed.checks ⟨0, start (α := Binary64) rate burst⟩ (idleRun a burst) ≠
      Timed.checks ⟨0, start (α := Binary64) rate burst⟩ (withoutPruning (idleRun a burst)) := by
  obtain ⟨n, rfl⟩ : ∃ n, burst = n + 1 := ⟨burst - 1, by omega⟩
  generalize begin : (⟨0, start rate (n + 1)⟩ : Timed Binary64) = t
  have rate' : t.limiter.rate = Binary64.ofNat rate := by rw [← begin]; rfl
  have capacity : t.limiter.capacity = Binary64.ofNat (n + 1) := by rw [← begin]; rfl
  have new : t.limiter.bucket? a = none := by rw [← begin]; rfl
  have distinct : t.limiter.Distinct := by rw [← begin]; exact List.nodup_nil
  have first := ready_new small new capacity
  have granted : t.AllGranted a (n + 1) :=
    Timed.allGranted_of_le (by omega) (Nat.le_of_eq first.symm)
  have empty := Timed.drained_of_allGranted (by omega) (Nat.le_of_eq first) granted
  obtain ⟨sameRate, sameCapacity⟩ := run_settings t (Timed.asking a (n + 1))
  rw [← t.run_asking_now a (n + 1)] at empty
  -- the client that was not pruned
  have denied : ¬ Timed.AllGranted
      ((t.run (Timed.asking a (n + 1))).2.step (.advance (serverIdle + 1))).2 a (n + 1) := by
    intro again
    have came := ready_idle_le (by omega : rate ≤ 2 ^ 28) (sameRate.trans rate') empty
    exact absurd (Timed.le_of_allGranted (by omega) came again) (by omega)
  -- the client that was pruned
  have regranted : Timed.AllGranted
      (((t.run (Timed.asking a (n + 1))).2.step (.advance (serverIdle + 1))).2.step
        (.prune serverIdle)).2 a (n + 1) := by
    have dropped := bucket?_idle_prune (distinct_run distinct _) empty
    have full := ready_new small dropped
      (by rw [step_capacity, step_capacity, sameCapacity, capacity])
    exact Timed.allGranted_of_le (by omega) (Nat.le_of_eq full.symm)
  rw [withoutPruning_idleRun, idleRun, Timed.checks_append, Timed.checks_append,
    Timed.checks_advance, Timed.checks_advance, Timed.checks_prune]
  intro equal
  have same := List.append_cancel_left equal
  unfold Timed.AllGranted at denied regranted
  exact denied (same.symm.trans regranted)

end Visible

/-- **Invisible pruning.**  The pruning of the server changes the outcome of no check, in any run
from the start, exactly if a burst is no more than what comes in during the idle time of five
minutes. -/
theorem pruning_invisible_iff (s : LimitSettings) :
    (∀ steps : List Step, (∀ idle, .prune idle ∈ steps → idle = serverIdle) →
      Timed.checks ⟨0, .ofSettings s⟩ steps =
        Timed.checks ⟨0, .ofSettings s⟩ (withoutPruning steps)) ↔
      s.burst.toNat ≤ 300 * s.requestsPerSecond.toNat := by
  have small := s.burst.toNat_lt
  constructor
  · intro invisible
    refine Nat.le_of_not_lt fun fast => idleRun_ne small fast .unspecified ?_
    exact invisible (idleRun .unspecified s.burst.toNat) fun _ mem => prune_mem_idleRun mem
  · intro slow steps own
    have refills := refills_of_le small slow s.requestsPerSecond.toNat_lt
    have start : Matches serverIdle ⟨0, .ofSettings s⟩ ⟨0, .ofSettings s⟩ :=
      ⟨rfl, rfl, rfl, List.nodup_nil, fun a => .inl rfl⟩
    exact checks_withoutPruning refills start own

/-- One request a second and a burst of 301: the settings are accepted, and pruning is visible. -/
theorem pruning_visible_onePerSecond :
    let s : LimitSettings := { enabled := true, requestsPerSecond := 1, burst := 301 }
    let steps := idleRun (.v4 0x01020304#32) 301
    Settings.limitProblems { limit := s } = [] ∧
      (∀ idle, .prune idle ∈ steps → idle = serverIdle) ∧
      Timed.checks ⟨0, .ofSettings s⟩ steps ≠
        Timed.checks ⟨0, .ofSettings s⟩ (withoutPruning steps) := by
  intro s steps
  exact ⟨by decide, fun _ mem => prune_mem_idleRun mem, idleRun_ne (by decide) (by decide) _⟩

end ClientOrigin.Limiter
