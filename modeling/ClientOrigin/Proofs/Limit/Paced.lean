import ClientOrigin.Proofs.Limit.Precision
import Mathlib.Data.List.Induction
import Mathlib.Data.Nat.Prime.Basic
import Mathlib.Tactic.NormNum.Prime

/-!
# Paced clients

A client that lets a token's time pass between its checks is never denied, although its tokens are
rounded on the way.

* `Binary64.le_mul_seconds` — the rounded income of a token's time is a whole token.  Where rate
  and time make up a second exactly, both are products of twos and fives, and there are only a
  hundred such pairs (`le_mul_seconds_of_eq`); at all other times there is more to spare than
  rounding takes;
* `updated_check`, `bucket?_of_run` — the bucket of a client carries the time of its last check,
  whatever the other steps do;
* `granted_of_waited` — so a check after a token's time is granted, and a client that always
  waits that long is granted all its checks (`paced_never_denied`).
-/

namespace ClientOrigin

open TokenArithmetic

/-! ## The income of a token's time -/

namespace Binary64

theorem nearest_two_mul (num den : Nat) : nearest (2 * num) (2 * den) = nearest num den := by
  have quotient : 2 * num / (2 * den) = num / den := Nat.mul_div_mul_left num den Nat.two_pos
  have rest : 2 * num % (2 * den) = 2 * (num % den) := Nat.mul_mod_mul_left 2 num den
  unfold nearest
  dsimp only
  rw [quotient, rest]
  refine if_congr (by omega) rfl (if_congr (by omega) rfl rfl)

theorem quantum_two_mul {q bit : Nat} (normal : 2 ^ 53 ≤ q) (small : bit ≤ 1) :
    quantum (2 * q + bit) = 2 * quantum q := by
  have log : (2 * q + bit).log2 = q.log2 + 1 := by
    have low := Nat.log2_self_le (n := q) (by omega)
    have high := Nat.lt_log2_self (n := q)
    rw [Nat.log2_eq_iff (by omega)]
    rw [Nat.pow_succ] at high ⊢
    rw [Nat.pow_succ 2 (q.log2 + 1), Nat.pow_succ]
    omega
  have bits : 53 ≤ q.log2 := (Nat.le_log2 (by omega)).mpr normal
  have exponent : q.log2 + 1 - 52 = (q.log2 - 52) + 1 := by omega
  unfold quantum
  rw [Nat.one_shiftLeft, if_neg (by omega), if_neg (by omega), log, exponent, Nat.one_shiftLeft,
    Nat.one_shiftLeft, Nat.pow_succ, Nat.mul_comm]

/-- Doubling moves the exponent of a number and rounds nothing. -/
theorem rounded_two_mul {num den : Nat} (pos : 0 < den) (normal : 2 ^ 53 ≤ num / den) :
    (rounded (2 * num) den).units = 2 * (rounded num den).units := by
  obtain ⟨bit, small, quotient⟩ : ∃ bit ≤ 1, 2 * num / den = 2 * (num / den) + bit := by
    have whole := Nat.div_add_mod num den
    have rest := Nat.mod_lt num pos
    refine ⟨2 * (num % den) / den, ?_, ?_⟩
    · exact Nat.le_of_lt_succ (Nat.div_lt_of_lt_mul (by omega))
    · have split : 2 * num = den * (2 * (num / den)) + 2 * (num % den) := by
        rw [Nat.mul_left_comm]
        omega
      rw [split, Nat.mul_add_div pos]
  unfold rounded
  dsimp only
  rw [quotient, quantum_two_mul normal small, Nat.mul_left_comm den, nearest_two_mul,
    Nat.mul_left_comm]

theorem seconds_two_mul {nanos : Nat} (some : 0 < nanos) (short : 2 * nanos < 1000000000) :
    (seconds (2 * nanos)).units = 2 * (seconds nanos).units := by
  -- less than a second is a fraction alone
  have fraction : ∀ n < 1000000000,
      (seconds n).units = (rounded (rounded (n * scale) 1000000000).units 1).units := by
    intro n below
    have none : (ofNat 0).units = 0 := (ofNat_units (by decide)).trans (Nat.zero_mul scale)
    unfold seconds add divNat
    rw [Nat.div_eq_of_lt below, Nat.mod_eq_of_lt below, none, ofNat_units (by omega), Nat.zero_add]
  have large : 2 ^ 53 * 1000000000 ≤ scale := by decide +kernel
  have quotient : 2 ^ 53 ≤ nanos * scale / 1000000000 := by
    rw [Nat.le_div_iff_mul_le (by decide)]
    exact Nat.le_trans large (Nat.le_mul_of_pos_left scale some)
  have rounds : 2 ^ 53 ≤ (rounded (nanos * scale) 1000000000).units :=
    le_rounded ⟨1, 53, by decide, by decide⟩ (by decide)
      ((Nat.le_div_iff_mul_le (by decide)).mp quotient)
  rw [fraction _ short, fraction _ (by omega), Nat.mul_assoc, rounded_two_mul (by decide) quotient,
    rounded_two_mul Nat.one_pos (by rw [Nat.div_one]; exact rounds)]

/-- Twice the time at half the rate brings in the same. -/
theorem mul_seconds_two_pow {nanos rate : Nat} (some : 0 < nanos) (i : Nat)
    (short : 2 ^ i * nanos < 1000000000) (small : 2 ^ i * rate ≤ 2 ^ 53) :
    (mul (seconds (2 ^ i * nanos)) (ofNat rate)).units =
      (mul (seconds nanos) (ofNat (2 ^ i * rate))).units := by
  induction i generalizing rate with
  | zero => rw [Nat.pow_zero, Nat.one_mul, Nat.one_mul]
  | succ i ih =>
      have positive : 0 < 2 ^ i * nanos := Nat.mul_pos (Nat.two_pow_pos i) some
      have twice : 2 ^ (i + 1) * nanos = 2 * (2 ^ i * nanos) := by
        rw [Nat.pow_succ', Nat.mul_assoc]
      have half : 2 ^ (i + 1) * rate = 2 ^ i * (2 * rate) := by rw [Nat.pow_succ, Nat.mul_assoc]
      have least : 2 * rate ≤ 2 ^ i * (2 * rate) := Nat.le_mul_of_pos_left _ (Nat.two_pow_pos i)
      rw [twice] at short ⊢
      rw [half] at small ⊢
      have before := ih (by omega) small
      rw [← before]
      unfold mul
      rw [seconds_two_mul positive short, ofNat_units (n := rate) (by omega),
        ofNat_units (n := 2 * rate) (by omega)]
      congr 2
      ring

/-- Rate and time make up a second exactly. -/
theorem le_mul_seconds_of_eq {rate nanos : Nat} (exact : nanos * rate = 1000000000) :
    scale ≤ (mul (seconds nanos) (ofNat rate)).units := by
  have one := representable_whole (n := 1) (by decide)
  rw [Nat.one_mul] at one
  have smallRate : rate ≤ 1000000000 :=
    Nat.le_of_dvd (by decide) ⟨nanos, by rw [Nat.mul_comm, exact]⟩
  have someRate : 0 < rate := Nat.pos_of_ne_zero (by rintro rfl; simp at exact)
  rcases Nat.lt_or_ge nanos 1000000000 with short | long
  · have powers : ∀ j ≤ 9,
        scale ≤ (mul (seconds (5 ^ j)) (ofNat (1000000000 / 5 ^ j))).units := by
      decide +kernel
    have divides : nanos ∣ 2 ^ 9 * 5 ^ 9 := ⟨rate, exact.symm⟩
    obtain ⟨twos, fives, two, five, rfl⟩ := Nat.dvd_mul.mp divides
    obtain ⟨i, _, rfl⟩ := (Nat.dvd_prime_pow Nat.prime_two).mp two
    obtain ⟨j, few, rfl⟩ := (Nat.dvd_prime_pow Nat.prime_five).mp five
    have positive : 0 < 5 ^ j := Nat.pow_pos (by decide)
    have rest : 5 ^ j * (2 ^ i * rate) = 1000000000 := by
      rw [← exact]
      ring
    have quotient : 2 ^ i * rate = 1000000000 / 5 ^ j :=
      (Nat.div_eq_of_eq_mul_right positive rest.symm).symm
    have small : 2 ^ i * rate ≤ 2 ^ 53 := by
      have := Nat.div_le_self 1000000000 (5 ^ j)
      omega
    rw [mul_seconds_two_pow positive i short small, quotient]
    exact powers j few
  · -- a second or longer, and one request a second or more
    have time : scale ≤ (seconds nanos).units := by
      have reached : 1 * scale ≤ (seconds nanos).units := le_seconds (by decide) (by omega)
      rw [Nat.one_mul] at reached
      exact reached
    exact le_mul_ofNat one (by omega) (Nat.le_trans time (Nat.le_mul_of_pos_right _ someRate))

/-- In the time of a token a whole token comes in, rounded as it is. -/
theorem le_mul_seconds {rate nanos : Nat} (small : rate ≤ 2 ^ 53)
    (enough : 1000000000 ≤ nanos * rate) :
    scale ≤ (mul (seconds nanos) (ofNat rate)).units := by
  rcases Nat.eq_or_lt_of_le enough with exact | more
  · exact le_mul_seconds_of_eq exact.symm
  · -- a whole nanosecond to spare is far more than three roundings take
    have spare : (1000000001 : Rat) ≤ nanos * rate := by exact_mod_cast more
    have came : 1 + 1 / 1000000000 ≤ (nanos / 1000000000 * rate : Rat) := by linarith
    have taken : 1 ≤ (1 + 1 / 1000000000) * (1 - roundoff) ^ 3 := by norm_num [roundoff]
    have nonneg : 0 ≤ (1 - roundoff) ^ 3 := by norm_num [roundoff]
    rw [← one_le_value_iff]
    calc (1 : Rat) ≤ (1 + 1 / 1000000000) * (1 - roundoff) ^ 3 := taken
      _ ≤ nanos / 1000000000 * rate * (1 - roundoff) ^ 3 :=
          mul_le_mul_of_nonneg_right came nonneg
      _ ≤ (mul (seconds nanos) (ofNat rate)).value := (mul_seconds_value nanos small).ge

end Binary64

namespace Limiter

/-! ## Time and stamps -/

/-- How far a step moves the clock. -/
def Step.nanos : Step → Nat
  | .advance nanos => nanos
  | _ => 0

/-- How long a run takes. -/
def elapsed (steps : List Step) : Nat := (steps.map Step.nanos).sum

section Stamps

variable {α : Type} [TokenArithmetic α]

theorem Timed.run_append (t : Timed α) (steps rest : List Step) :
    (t.run (steps ++ rest)).2 = ((t.run steps).2.run rest).2 := by
  induction steps generalizing t with
  | nil => rfl
  | cons next steps ih => exact ih (t.step next).2

theorem Timed.run_now (t : Timed α) (steps : List Step) :
    (t.run steps).2.now = t.now + elapsed steps := by
  induction steps generalizing t with
  | nil => rfl
  | cons next steps ih =>
      have here : (t.step next).2.now = t.now + next.nanos := by cases next <;> rfl
      have later := ih (t.step next).2
      simp only [elapsed, List.map_cons, List.sum_cons, Timed.run_cons] at later ⊢
      omega

theorem Timed.checksOf_append (t : Timed α) (a : Address) (steps rest : List Step) :
    t.checksOf a (steps ++ rest) = t.checksOf a steps ++ (t.run steps).2.checksOf a rest := by
  induction steps generalizing t with
  | nil => rfl
  | cons next steps ih =>
      rw [List.cons_append, checksOf_cons, checksOf_cons, ih, List.append_assoc]
      rfl

/-- A check stamps its bucket, granted or denied. -/
theorem updated_check {t : Timed α} {a : Address} {b : Bucket α}
    (kept : b ∈ (t.step (.check a)).2.limiter.bucket? a) : b.updated = t.now := by
  have left : (t.step (.check a)).2.limiter.bucket? a =
      some ((t.limiter.found t.now a).acquire t.limiter.capacity t.limiter.rate t.now).2 :=
    bucket?_check_self t.limiter t.now a
  rw [left] at kept
  obtain rfl := Option.some.inj kept
  by_cases token :
      ((t.limiter.found t.now a).refilled t.limiter.capacity t.limiter.rate t.now).hasToken = true
  · rw [Bucket.acquire_of_token token]
    rfl
  · rw [Bucket.acquire_of_no_token token]
    rfl

section Silent

variable {t : Timed α} {a : Address} {b : Bucket α}

/-- All other steps leave the bucket of a client as it is, or drop it. -/
theorem bucket?_of_step (distinct : t.limiter.Distinct) {step : Step} (other : .check a ≠ step)
    (kept : b ∈ (t.step step).2.limiter.bucket? a) : b ∈ t.limiter.bucket? a := by
  cases step with
  | check c =>
      have differ : a ≠ c := fun same => other (by rw [same])
      have same : (t.step (.check c)).2.limiter.bucket? a = t.limiter.bucket? a :=
        bucket?_check_of_ne t.limiter t.now differ
      rw [same] at kept
      exact kept
  | advance nanos => exact kept
  | prune maxIdle =>
      have filtered : (t.step (.prune maxIdle)).2.limiter.bucket? a =
          (t.limiter.bucket? a).filter fun b => t.now - b.updated ≤ maxIdle :=
        bucket?_prune distinct t.now maxIdle a
      rw [filtered] at kept
      exact (Option.filter_eq_some_iff.mp kept).1

theorem bucket?_of_run (distinct : t.limiter.Distinct) {steps : List Step}
    (silent : .check a ∉ steps) (kept : b ∈ (t.run steps).2.limiter.bucket? a) :
    b ∈ t.limiter.bucket? a := by
  induction steps generalizing t with
  | nil => exact kept
  | cons next rest ih =>
      rw [List.mem_cons, not_or] at silent
      exact bucket?_of_step distinct silent.1 (ih (distinct_run distinct [next]) silent.2 kept)

/-- A bucket carries the time of the last check. -/
theorem updated_of_run (distinct : t.limiter.Distinct) {before between : List Step}
    (silent : .check a ∉ between)
    (kept : b ∈ (t.run (before ++ .check a :: between)).2.limiter.bucket? a) :
    b.updated = (t.run before).2.now := by
  rw [Timed.run_append, Timed.run_cons] at kept
  have asked : ((t.run before).2.step (.check a)).2.limiter.Distinct :=
    distinct_check (distinct_run distinct before) _ a
  exact updated_check (bucket?_of_run asked silent kept)

theorem now_of_run (t : Timed α) (before between : List Step) (a : Address) :
    (t.run (before ++ .check a :: between)).2.now = (t.run before).2.now + elapsed between := by
  rw [Timed.run_append, Timed.run_cons]
  exact Timed.run_now _ between

end Silent

end Stamps

/-! ## Checks after a token's time -/

/-- The last check of the client lies a token's time back, or longer. -/
def HasWaited (rate : Nat) (a : Address) (history : List Step) : Prop :=
  ∃ before between, history = before ++ .check a :: between ∧ .check a ∉ between ∧
    1000000000 ≤ elapsed between * rate

/-- Between a check of the client and its next one lies a token's time, or longer. -/
def Paced (rate : Nat) (a : Address) (steps : List Step) : Prop :=
  ∀ before between rest, steps = before ++ .check a :: (between ++ .check a :: rest) →
    .check a ∉ between → 1000000000 ≤ elapsed between * rate

section Paced

variable {rate burst : Nat} (smallRate : rate < 2 ^ 32) (smallBurst : burst < 2 ^ 32)
  (room : 0 < burst)

include smallBurst room

theorem scale_le_capacity : Binary64.scale ≤ (Binary64.ofNat burst).units := by
  rw [Binary64.ofNat_units (by omega)]
  exact Nat.le_mul_of_pos_left _ room

variable {t : Timed Binary64} {a : Address} (steady : t.limiter.rate = Binary64.ofNat rate)
  (capacity : t.limiter.capacity = Binary64.ofNat burst)

include capacity

/-- A client without a bucket has a token. -/
theorem scale_le_ready_of_none (new : t.limiter.bucket? a = none) :
    Binary64.scale ≤ (t.ready a).tokens.units := by
  rw [ready_new smallBurst new capacity]
  exact Nat.le_mul_of_pos_left _ room

include smallRate steady

/-- So does one whose bucket was stamped a token's time ago, or longer. -/
theorem scale_le_ready_of_stamped {time : Nat}
    (stamped : ∀ b ∈ t.limiter.bucket? a, b.updated = time)
    (enough : 1000000000 ≤ (t.now - time) * rate) :
    Binary64.scale ≤ (t.ready a).tokens.units := by
  cases kept : t.limiter.bucket? a with
  | none => exact scale_le_ready_of_none smallBurst room capacity kept
  | some b =>
      have found : t.limiter.found t.now a = b := by
        unfold found
        rw [kept, Option.getD_some]
      have one := Binary64.representable_whole (n := 1) (by decide)
      rw [Nat.one_mul] at one
      have came := Binary64.le_mul_seconds (by omega : rate ≤ 2 ^ 53) enough
      unfold Timed.ready
      rw [found, Bucket.refilled_units, steady, capacity, stamped b kept, Nat.le_min]
      refine ⟨Binary64.le_add one ?_, scale_le_capacity smallBurst room⟩
      exact Nat.le_trans came (Nat.le_add_left _ _)

/-- So does one whose last check lies a token's time back, whatever happened since. -/
theorem scale_le_ready_of_waited (fresh : t.limiter.Distinct) {history : List Step}
    (waited : HasWaited rate a history) :
    Binary64.scale ≤ ((t.run history).2.ready a).tokens.units := by
  obtain ⟨before, between, rfl, silent, enough⟩ := waited
  obtain ⟨sameRate, sameCapacity⟩ := run_settings t (before ++ .check a :: between)
  refine scale_le_ready_of_stamped smallRate smallBurst room (sameRate.trans steady)
    (sameCapacity.trans capacity) (fun b kept => updated_of_run fresh silent kept) ?_
  rw [now_of_run, Nat.add_sub_cancel_left]
  exact enough

end Paced

section Runs

theorem distinct_ofSettings (s : LimitSettings) : (ofSettings s).Distinct := List.nodup_nil

variable {s : LimitSettings} (room : 0 < s.burst.toNat) {a : Address}

include room

theorem granted_of_waited {history : List Step}
    (waited : (Timed.run ⟨0, .ofSettings s⟩ history).2.limiter.bucket? a = none ∨
      HasWaited s.requestsPerSecond.toNat a history) :
    ((Timed.run ⟨0, .ofSettings s⟩ history).2.step (.check a)).1 = some true := by
  have smallRate := s.requestsPerSecond.toNat_lt
  have smallBurst := s.burst.toNat_lt
  rw [Timed.step_check_granted]
  rcases waited with new | waited
  · have capacity := (run_settings ⟨0, .ofSettings s⟩ history).2
    exact scale_le_ready_of_none smallBurst room capacity new
  · exact scale_le_ready_of_waited smallRate smallBurst room rfl rfl (distinct_ofSettings s) waited

omit room in
theorem exists_last_check {steps : List Step} (asked : .check a ∈ steps) :
    ∃ before between, steps = before ++ .check a :: between ∧ .check a ∉ between := by
  obtain ⟨after, front, reversed, silent⟩ :=
    List.eq_append_cons_of_mem (List.mem_reverse.mpr asked)
  refine ⟨front.reverse, after.reverse, ?_, fun mem => silent (List.mem_reverse.mp mem)⟩
  rw [← List.reverse_reverse steps, reversed]
  simp

/-- Every check of a paced run is one that has waited, or the first one. -/
theorem granted_of_paced {steps : List Step}
    (paced : Paced s.requestsPerSecond.toNat a steps) :
    ∀ granted ∈ Timed.checksOf ⟨0, .ofSettings s⟩ a steps, granted = true := by
  induction steps using List.reverseRecOn with
  | nil =>
      intro granted none
      exact absurd none List.not_mem_nil
  | append_singleton steps step ih =>
      intro granted mem
      rw [Timed.checksOf_append, List.mem_append] at mem
      rcases mem with earlier | last
      · refine ih (fun before between rest split silent => ?_) granted earlier
        exact paced before between (rest ++ [step]) (by rw [split]; simp) silent
      · rw [Timed.checksOf_cons] at last
        by_cases own : step = .check a
        · subst own
          have waited : ((Timed.run ⟨0, .ofSettings s⟩ steps).2.limiter.bucket? a = none) ∨
              HasWaited s.requestsPerSecond.toNat a steps := by
            by_cases asked : .check a ∈ steps
            · obtain ⟨before, between, split, silent⟩ := exists_last_check asked
              refine .inr ⟨before, between, split, silent, ?_⟩
              exact paced before between [] (by rw [split]; simp) silent
            · refine .inl (Option.eq_none_iff_forall_not_mem.mpr fun b kept => ?_)
              have kept := bucket?_of_run (distinct_ofSettings s) asked kept
              exact absurd kept (Option.not_mem_none b)
          rw [if_pos rfl, granted_of_waited room waited] at last
          exact List.mem_singleton.mp last
        · rw [if_neg own] at last
          exact absurd last List.not_mem_nil

end Runs

/-- **Paced clients.**  After any history a check of a client is granted if the client has no
bucket, or if its last check, granted or denied, lies a token's time back or longer.  So a client
that always waits that long is never denied, whatever the others do and whenever it is pruned. -/
theorem paced_never_denied (s : LimitSettings) (room : 0 < s.burst.toNat) (a : Address) :
    (∀ history : List Step,
      (Timed.run ⟨0, .ofSettings s⟩ history).2.limiter.bucket? a = none ∨
        HasWaited s.requestsPerSecond.toNat a history →
      ((Timed.run ⟨0, .ofSettings s⟩ history).2.step (.check a)).1 = some true) ∧
    ∀ steps : List Step, Paced s.requestsPerSecond.toNat a steps →
      ∀ granted ∈ Timed.checksOf ⟨0, .ofSettings s⟩ a steps, granted = true :=
  ⟨fun _ waited => granted_of_waited room waited, fun _ paced => granted_of_paced room paced⟩

/-- Of 15625 tokens a second each takes 64 microseconds, and the refill of that time is rounded
down to less than a token before it is rounded up again.  Denied checks and other clients make no
difference, and one nanosecond less is not enough. -/
theorem paced_never_denied_refill :
    let a : Address := .v4 0x01020304#32
    let c : Address := .v4 0x05060708#32
    let s : LimitSettings := { enabled := true, requestsPerSecond := 15625, burst := 1 }
    let history : List Step :=
      [.check a, .advance 9, .check a, .advance 30000, .check c, .prune 40000, .advance 34000]
    let steps : List Step := [.check a, .advance 64000, .check a]
    0 < s.burst.toNat ∧
      (HasWaited 15625 a history ∧
        ((Timed.run ⟨0, .ofSettings s⟩ history).2.step (.check a)).1 = some true) ∧
      (Paced 15625 a steps ∧
        ∀ granted ∈ Timed.checksOf ⟨0, .ofSettings s⟩ a steps, granted = true) ∧
      Timed.checksOf ⟨0, .ofSettings s⟩ a [.check a, .advance 63999, .check a] =
        [true, false] := by
  intro a c s history steps
  have room : 0 < s.burst.toNat := by decide
  have waited : HasWaited 15625 a history :=
    ⟨[.check a, .advance 9], [.advance 30000, .check c, .prune 40000, .advance 34000], rfl,
      by decide, by decide⟩
  have paced : Paced 15625 a steps := by
    intro before between rest split silent
    have tail : before = [] ∧ between ++ .check a :: rest = [.advance 64000, .check a] := by
      simpa [steps, List.cons_eq_append_iff] using split
    obtain ⟨later, rfl, _⟩ : ∃ later, between = .advance 64000 :: later ∧
        [.check a] = later ++ .check a :: rest := by
      simpa [List.append_eq_cons_iff] using tail.2
    have time : elapsed (.advance 64000 :: later) = 64000 + elapsed later := List.sum_cons
    rw [time]
    omega
  obtain ⟨granted, allGranted⟩ := paced_never_denied s room a
  exact ⟨room, ⟨waited, granted history (.inr waited)⟩, ⟨paced, allGranted steps paced⟩,
    by decide +kernel⟩

end Limiter

end ClientOrigin
