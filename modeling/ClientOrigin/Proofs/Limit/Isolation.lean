import ClientOrigin.Proofs.Limit.Buckets
import ClientOrigin.Proofs.Service.RateLimit

/-!
# Clients do not disturb each other

All clients share one map of buckets, but what a client is answered depends on its own checks,
the clock and the pruning alone.

* `Alike` — two limiters agree in what one client can notice;
* `alike_foreign` — a check of somebody else keeps that, on one side alone;
* `step_alike` — every other step keeps it on both sides, with the same outcome;
* `checksOf_only` — so in any run the foreign checks may be left out.
-/

namespace ClientOrigin.Limiter

open TokenArithmetic

variable {α : Type} [TokenArithmetic α]

/-! ## Runs of one client -/

/-- The step is a check of another client. -/
def Step.isForeign (a : Address) : Step → Bool
  | .check client => client ≠ a
  | _ => false

/-- A run without the checks of all clients but one. -/
def only (a : Address) (steps : List Step) : List Step :=
  steps.filter fun step => !step.isForeign a

/-- What the checks of one client returned, in order. -/
def Timed.checksOf (t : Timed α) (a : Address) (steps : List Step) : List Bool :=
  (steps.zip (t.run steps).1).filterMap fun answered =>
    if answered.1 = .check a then answered.2 else none

theorem Timed.checksOf_cons (t : Timed α) (a : Address) (step : Step) (rest : List Step) :
    t.checksOf a (step :: rest) =
      (if step = .check a then (t.step step).1.toList else []) ++
        (t.step step).2.checksOf a rest := by
  unfold checksOf
  rw [run_cons, List.zip_cons_cons, List.filterMap_cons]
  dsimp only
  by_cases own : step = .check a
  · rw [if_pos own, if_pos own]
    cases (t.step step).1 with
    | none => rfl
    | some granted => rfl
  · rw [if_neg own, if_neg own, List.nil_append]

theorem Step.eq_check_of_isForeign {a : Address} {step : Step} (h : step.isForeign a = true) :
    ∃ c, step = .check c ∧ c ≠ a := by
  cases step with
  | check c => exact ⟨c, rfl, of_decide_eq_true h⟩
  | advance nanos => exact absurd h Bool.false_ne_true
  | prune maxIdle => exact absurd h Bool.false_ne_true

/-! ## One step -/

/-- The limiters agree in the clock, the settings and the bucket of one client. -/
structure Alike (a : Address) (t u : Timed α) : Prop where
  now : u.now = t.now
  rate : u.limiter.rate = t.limiter.rate
  capacity : u.limiter.capacity = t.limiter.capacity
  bucket : u.limiter.bucket? a = t.limiter.bucket? a
  distinct : t.limiter.Distinct ∧ u.limiter.Distinct

section Steps

variable {a : Address} {t u : Timed α}

/-- The client cannot notice a check of somebody else. -/
theorem alike_foreign (h : Alike a t u) {c : Address} (foreign : c ≠ a) :
    Alike a (t.step (.check c)).2 u := by
  refine ⟨h.now, h.rate, h.capacity, ?_, distinct_check h.distinct.1 t.now c, h.distinct.2⟩
  show u.limiter.bucket? a = (t.limiter.check t.now c).2.bucket? a
  rw [bucket?_check_of_ne _ _ (Ne.symm foreign)]
  exact h.bucket

omit [TokenArithmetic α] in
/-- A check of the client finds the same bucket on both sides. -/
theorem found_alike (h : Alike a t u) :
    u.limiter.found u.now a = t.limiter.found t.now a := by
  unfold found
  rw [h.bucket, h.capacity, h.now]

/-- Any other step has the same outcome on both sides and keeps the agreement. -/
theorem step_alike (h : Alike a t u) {step : Step} (own : step.isForeign a = false) :
    (u.step step).1 = (t.step step).1 ∧ Alike a (t.step step).2 (u.step step).2 := by
  cases step with
  | check c =>
      obtain rfl : c = a := Decidable.not_not.mp (of_decide_eq_false own)
      have same : (u.limiter.found u.now c).acquire u.limiter.capacity u.limiter.rate u.now =
          (t.limiter.found t.now c).acquire t.limiter.capacity t.limiter.rate t.now := by
        rw [found_alike h, h.capacity, h.rate, h.now]
      refine ⟨congrArg (fun outcome : Bool × Bucket α => some outcome.1) same, ?_⟩
      refine ⟨h.now, h.rate, h.capacity, ?_,
        distinct_check h.distinct.1 t.now c, distinct_check h.distinct.2 u.now c⟩
      show (u.limiter.check u.now c).2.bucket? c = (t.limiter.check t.now c).2.bucket? c
      rw [bucket?_check_self, bucket?_check_self, same]
  | advance nanos =>
      exact ⟨rfl, congrArg (· + nanos) h.now, h.rate, h.capacity, h.bucket, h.distinct⟩
  | prune maxIdle =>
      refine ⟨rfl, h.now, h.rate, h.capacity, ?_,
        distinct_prune h.distinct.1 t.now maxIdle, distinct_prune h.distinct.2 u.now maxIdle⟩
      show (u.limiter.prune u.now maxIdle).bucket? a = (t.limiter.prune t.now maxIdle).bucket? a
      rw [bucket?_prune h.distinct.2, bucket?_prune h.distinct.1, h.bucket, h.now]

end Steps

/-! ## Whole runs -/

/-- The invariant is `Alike`: the left run makes the foreign checks, the right one does not. -/
theorem checksOf_only {a : Address} {t u : Timed α} (h : Alike a t u) (steps : List Step) :
    u.checksOf a (only a steps) = t.checksOf a steps := by
  induction steps generalizing t u with
  | nil => rfl
  | cons step rest ih =>
      unfold only at ih ⊢
      rw [Timed.checksOf_cons]
      cases foreign : step.isForeign a with
      | true =>
          obtain ⟨c, rfl, other⟩ := Step.eq_check_of_isForeign foreign
          have differ : Step.check c ≠ .check a := fun equal => other (Step.check.inj equal)
          rw [List.filter_cons_of_neg (by simp [foreign]), if_neg differ, List.nil_append]
          exact ih (alike_foreign h other)
      | false =>
          obtain ⟨outcome, alike⟩ := step_alike h foreign
          rw [List.filter_cons_of_pos (by simp [foreign]), Timed.checksOf_cons, outcome, ih alike]

/-- **Isolated clients.**  In any run of a limiter from its start, whatever its settings, the
checks of an address return what they return in the run without the checks of all others. -/
theorem checks_isolated (s : LimitSettings) (steps : List Step) (a : Address) :
    Timed.checksOf ⟨0, .ofSettings s⟩ a steps =
      Timed.checksOf ⟨0, .ofSettings s⟩ a (only a steps) := by
  have start : Alike a (⟨0, .ofSettings s⟩ : Timed Binary64) ⟨0, .ofSettings s⟩ :=
    ⟨rfl, rfl, rfl, rfl, List.nodup_nil, List.nodup_nil⟩
  exact (checksOf_only start steps).symm

/-- A client that has used up its burst is denied, whoever is granted in between and although the
bucket of the other one is pruned. -/
example : Timed.checksOf ⟨0, .ofSettings { requestsPerSecond := 1, burst := 1 }⟩
    (.v4 0x01020304#32)
    [.check (.v4 0x01020304#32), .check (.v4 0x05060708#32), .advance 500000000,
      .check (.v4 0x01020304#32), .prune 400000000, .check (.v4 0x05060708#32)] =
    [true, false] := by
  decide +kernel

end ClientOrigin.Limiter
