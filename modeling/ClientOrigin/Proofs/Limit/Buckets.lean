import ClientOrigin.Limit.Binary64
import ClientOrigin.Limit.Limiter

/-!
# Buckets of clients

What a step of the limiter does to the bucket of one client.  A check refills and stamps the
client's own bucket and leaves the others alone (`bucket?_check_self`, `bucket?_check_of_ne`), so
two addresses share a bucket only if they are one address (`sharesBucket_iff`).  Pruning keeps the
buckets that were asked lately (`bucket?_prune`).
-/

namespace ClientOrigin.Limiter

open TokenArithmetic

variable {α : Type}

/-! ## Looking up and replacing -/

theorem bucket?_withBucket_self (l : Limiter α) (a : Address) (b : Bucket α) :
    (l.withBucket a b).bucket? a = some b := by
  simp [withBucket, bucket?]

theorem lookup_filter_of_key {entries : List (Address × Bucket α)} (keep : Address → Bool)
    {a : Address} (kept : keep a = true) :
    (entries.filter fun entry => keep entry.1).lookup a = entries.lookup a := by
  induction entries with
  | nil => rfl
  | cons entry entries ih =>
      obtain ⟨c, b⟩ := entry
      by_cases own : a = c
      · rw [List.filter_cons_of_pos (by rw [← own]; exact kept), own]
        simp
      · have other : (a == c) = false := beq_eq_false_iff_ne.mpr own
        rw [List.filter_cons]
        split
        · simp [List.lookup_cons, other, ih]
        · simp [List.lookup_cons, other, ih]

theorem bucket?_withBucket_of_ne (l : Limiter α) {a c : Address} (other : c ≠ a) (b : Bucket α) :
    (l.withBucket a b).bucket? c = l.bucket? c := by
  have differ : (c == a) = false := beq_eq_false_iff_ne.mpr other
  unfold withBucket bucket?
  rw [List.lookup_cons, differ]
  exact lookup_filter_of_key (fun d => decide (d ≠ a)) (decide_eq_true other)

/-! ## Distinct clients -/

/-- Each client has at most one bucket. -/
def Distinct (l : Limiter α) : Prop := (l.buckets.map Prod.fst).Nodup

theorem distinct_withBucket {l : Limiter α} (h : l.Distinct) (a : Address) (b : Bucket α) :
    (l.withBucket a b).Distinct := by
  have rest : ((l.buckets.filter fun entry => entry.1 ≠ a).map Prod.fst).Nodup :=
    h.sublist (List.filter_sublist.map Prod.fst)
  have absent : a ∉ (l.buckets.filter fun entry => entry.1 ≠ a).map Prod.fst := by
    simp
  exact List.nodup_cons.mpr ⟨absent, rest⟩

theorem distinct_prune {l : Limiter α} (h : l.Distinct) (now maxIdle : Nat) :
    (l.prune now maxIdle).Distinct :=
  h.sublist (List.filter_sublist.map Prod.fst)

theorem lookup_filter_of_distinct {entries : List (Address × Bucket α)}
    (distinct : (entries.map Prod.fst).Nodup) (keep : Bucket α → Bool) (a : Address) :
    (entries.filter fun entry => keep entry.2).lookup a = (entries.lookup a).filter keep := by
  induction entries with
  | nil => rfl
  | cons entry entries ih =>
      obtain ⟨c, b⟩ := entry
      obtain ⟨fresh, distinct⟩ := List.nodup_cons.mp distinct
      rw [List.filter_cons]
      by_cases own : a = c
      · subst own
        -- the later entries belong to other clients
        have gone : (entries.filter fun entry => keep entry.2).lookup a = none := by
          rw [List.lookup_eq_none_iff]
          intro entry mem
          have key : entry.1 ∈ entries.map Prod.fst :=
            List.mem_map_of_mem (List.mem_filter.mp mem).1
          exact bne_iff_ne.mpr fun equal => fresh (equal ▸ key)
        cases kept : keep b with
        | true => simp [Option.filter_some, kept]
        | false => simp [Option.filter_some, kept, gone]
      · have other : (a == c) = false := beq_eq_false_iff_ne.mpr own
        cases kept : keep b with
        | true => simp [List.lookup_cons, other, ih distinct]
        | false => simp [List.lookup_cons, other, ih distinct]

/-- Pruning keeps the bucket of a client if it was asked lately. -/
theorem bucket?_prune {l : Limiter α} (distinct : l.Distinct) (now maxIdle : Nat) (a : Address) :
    (l.prune now maxIdle).bucket? a =
      (l.bucket? a).filter fun b => now - b.updated ≤ maxIdle :=
  lookup_filter_of_distinct distinct (fun b => decide (now - b.updated ≤ maxIdle)) a

/-! ## Checks -/

variable [TokenArithmetic α]

/-- The bucket that a check of a client finds. -/
def found (l : Limiter α) (now : Nat) (a : Address) : Bucket α :=
  (l.bucket? a).getD (Bucket.full l.capacity now)

/-- A check asks the bucket that it finds and leaves what that one becomes. -/
theorem check_eq (l : Limiter α) (now : Nat) (a : Address) :
    l.check now a =
      (((l.found now a).acquire l.capacity l.rate now).1,
        l.withBucket a ((l.found now a).acquire l.capacity l.rate now).2) := rfl

theorem bucket?_check_self (l : Limiter α) (now : Nat) (a : Address) :
    (l.check now a).2.bucket? a =
      some ((l.found now a).acquire l.capacity l.rate now).2 := by
  rw [check_eq]
  exact bucket?_withBucket_self l a _

theorem bucket?_check_of_ne (l : Limiter α) (now : Nat) {a c : Address} (other : c ≠ a) :
    (l.check now a).2.bucket? c = l.bucket? c := by
  rw [check_eq]
  exact bucket?_withBucket_of_ne l other _

theorem distinct_check {l : Limiter α} (h : l.Distinct) (now : Nat) (a : Address) :
    (l.check now a).2.Distinct := by
  rw [check_eq]
  exact distinct_withBucket h a _

theorem step_rate (t : Timed α) (step : Step) :
    (t.step step).2.limiter.rate = t.limiter.rate := by
  cases step <;> rfl

theorem step_capacity (t : Timed α) (step : Step) :
    (t.step step).2.limiter.capacity = t.limiter.capacity := by
  cases step <;> rfl

/-- The rate and the capacity of a limiter stay as they are. -/
theorem run_settings (t : Timed α) (steps : List Step) :
    (t.run steps).2.limiter.rate = t.limiter.rate ∧
      (t.run steps).2.limiter.capacity = t.limiter.capacity := by
  induction steps generalizing t with
  | nil => exact ⟨rfl, rfl⟩
  | cons next rest ih =>
      obtain ⟨rate, capacity⟩ := ih (t.step next).2
      exact ⟨rate.trans (step_rate t next), capacity.trans (step_capacity t next)⟩

theorem distinct_run {t : Timed α} (h : t.limiter.Distinct) (steps : List Step) :
    (t.run steps).2.limiter.Distinct := by
  induction steps generalizing t with
  | nil => exact h
  | cons next rest ih =>
      cases next with
      | check a => exact ih (t := (t.step (.check a)).2) (distinct_check h t.now a)
      | advance nanos => exact ih (t := (t.step (.advance nanos)).2) h
      | prune maxIdle =>
          exact ih (t := (t.step (.prune maxIdle)).2) (distinct_prune h t.now maxIdle)

/-- What a check of one address leaves in its bucket is what the next check of the other one
finds, whatever the limiter has seen. -/
def SharesBucket (a c : Address) : Prop :=
  ∀ (l : Limiter Binary64) (now : Nat),
    (l.check now a).2.bucket? c = (l.check now a).2.bucket? a

theorem sharesBucket_iff (a c : Address) : SharesBucket a c ↔ a = c := by
  constructor
  · intro shares
    refine Decidable.byContradiction fun differ => ?_
    -- the first check of `a` leaves no bucket for `c`
    have same := shares (start 0 0) 0
    rw [bucket?_check_self, bucket?_check_of_ne _ _ (Ne.symm differ)] at same
    simp [start, bucket?] at same
  · rintro rfl l now
    rfl

end ClientOrigin.Limiter
