import ClientOrigin.Proofs.Limit.Paced
import Mathlib.Data.List.Nodup
import Mathlib.Logic.Equiv.Basic
import Mathlib.Logic.Nontrivial.Defs

/-!
# Which clients are tracked

The clients of a limiter follow from the history of its checks, its clock and its prunings.

* `Lasts` — the latest check of a client was young enough at every pruning since;
* `isSome_bucket?_run` — between two checks of a client its bucket carries the time of the first,
  so it is there exactly if no pruning has found it too old (`Spared`); by induction on the steps;
* `Renamed` — two limiters agree up to the names of their clients.  `step_renamed` is the step
  lemma and `run_renamed` the run lemma, so whoever has no bucket is like anyone else who has none;
* `tracked_history` — the two parts together, for every history.
-/

namespace ClientOrigin.Limiter

open TokenArithmetic

/-! ## Histories -/

/-- What was checked before these steps, `age` nanoseconds before, is no older at any pruning among
them than that pruning allows. -/
def Spared (age : Nat) (steps : List Step) : Prop :=
  ∀ early idle late, steps = early ++ .prune idle :: late → age + elapsed early ≤ idle

/-- The client was checked, and the latest check, granted or denied, was not too old for any
pruning since. -/
def Lasts (a : Address) (history : List Step) : Prop :=
  ∃ before since, history = before ++ .check a :: since ∧ .check a ∉ since ∧ Spared 0 since

theorem elapsed_cons (next : Step) (rest : List Step) :
    elapsed (next :: rest) = next.nanos + elapsed rest := List.sum_cons

theorem spared_nil (age : Nat) : Spared age [] := by
  intro early idle late split
  simp at split

/-- The first step may be a pruning itself; for all others the check is as much older as the first
step takes. -/
theorem spared_cons_iff (age : Nat) (next : Step) (rest : List Step) :
    Spared age (next :: rest) ↔
      (∀ idle, next = .prune idle → age ≤ idle) ∧ Spared (age + next.nanos) rest := by
  constructor
  · intro spared
    constructor
    · rintro idle rfl
      exact spared [] idle rest rfl
    · rintro early idle late rfl
      have within := spared (next :: early) idle late rfl
      rw [elapsed_cons] at within
      omega
  · rintro ⟨first, later⟩ early idle late split
    cases early with
    | nil => exact first idle (List.cons.inj split).1
    | cons step early =>
        obtain ⟨rfl, rest⟩ := List.cons.inj split
        have within := later early idle late rest
        rw [elapsed_cons]
        omega

theorem Lasts.checked {a : Address} {history : List Step} (lasts : Lasts a history) :
    .check a ∈ history := by
  obtain ⟨before, since, rfl, _⟩ := lasts
  exact List.mem_append_right before List.mem_cons_self

variable {α : Type}

/-- The clients that have a bucket. -/
def clients (l : Limiter α) : List Address := l.buckets.map Prod.fst

instance : Nontrivial Address := ⟨.v4 0, .v4 1, by decide⟩

theorem length_clients (l : Limiter α) : l.clients.length = l.tracked := List.length_map _

theorem mem_clients_iff (l : Limiter α) (a : Address) :
    a ∈ l.clients ↔ (l.bucket? a).isSome = true := by
  unfold clients bucket?
  rw [List.lookup_isSome_iff, List.mem_map]
  constructor
  · rintro ⟨entry, mem, rfl⟩
    exact ⟨entry, mem, beq_self_eq_true entry.1⟩
  · rintro ⟨entry, mem, same⟩
    exact ⟨entry, mem, (beq_iff_eq.mp same).symm⟩

variable [TokenArithmetic α]

/-! ## From one check to the next -/

section Since

variable {t : Timed α} {a : Address} (distinct : t.limiter.Distinct)

include distinct

theorem bucket?_run_eq_none {steps : List Step} (silent : .check a ∉ steps)
    (new : t.limiter.bucket? a = none) : (t.run steps).2.limiter.bucket? a = none := by
  refine Option.eq_none_iff_forall_not_mem.mpr fun b kept => ?_
  have here := bucket?_of_run distinct silent kept
  rw [new] at here
  exact absurd here (Option.not_mem_none b)

/-- As long as a client is not checked, its bucket is there exactly if all prunings have spared it;
by induction on the steps, with the age of the bucket moving along. -/
theorem isSome_bucket?_run {b : Bucket α} (here : t.limiter.bucket? a = some b)
    (stamped : b.updated ≤ t.now) {steps : List Step} (silent : .check a ∉ steps) :
    ((t.run steps).2.limiter.bucket? a).isSome = true ↔ Spared (t.now - b.updated) steps := by
  induction steps generalizing t with
  | nil =>
      have present : (t.limiter.bucket? a).isSome = true := by rw [here, Option.isSome_some]
      exact iff_of_true present (spared_nil _)
  | cons next rest ih =>
      rw [List.mem_cons, not_or] at silent
      obtain ⟨other, silent⟩ := silent
      rw [spared_cons_iff, Timed.run_cons]
      cases next with
      | check c =>
          have differ : a ≠ c := fun same => other (by rw [same])
          have kept : (t.step (.check c)).2.limiter.bucket? a = some b :=
            (bucket?_check_of_ne t.limiter t.now differ).trans here
          have later := ih (t := (t.step (.check c)).2) (distinct_check distinct t.now c) kept
            stamped silent
          rw [later]
          exact ⟨fun spared => ⟨nofun, spared⟩, And.right⟩
      | advance nanos =>
          have older : b.updated ≤ t.now + nanos := Nat.le_add_right_of_le stamped
          have later := ih (t := (t.step (.advance nanos)).2) distinct here older silent
          have age : t.now + nanos - b.updated = t.now - b.updated + nanos :=
            Nat.sub_add_comm stamped
          rw [later]
          show Spared (t.now + nanos - b.updated) rest ↔ _ ∧ Spared _ rest
          rw [age]
          exact ⟨fun spared => ⟨nofun, spared⟩, And.right⟩
      | prune idle =>
          have pruned : (t.step (.prune idle)).2.limiter.Distinct :=
            distinct_prune distinct t.now idle
          have filtered : (t.step (.prune idle)).2.limiter.bucket? a =
              (t.limiter.bucket? a).filter fun b => t.now - b.updated ≤ idle :=
            bucket?_prune distinct t.now idle a
          rw [here, Option.filter_some] at filtered
          by_cases young : t.now - b.updated ≤ idle
          · rw [if_pos (decide_eq_true young)] at filtered
            have later := ih pruned filtered stamped silent
            rw [later]
            refine ⟨fun spared => ⟨?_, spared⟩, And.right⟩
            rintro allowed same
            rwa [← Step.prune.inj same]
          · -- the bucket is dropped, and nobody brings it back
            rw [if_neg (by simpa using young)] at filtered
            have gone := bucket?_run_eq_none pruned silent filtered
            rw [gone]
            exact iff_of_false Bool.false_ne_true fun spared => young (spared.1 idle rfl)

/-- A check leaves a bucket that is stamped at its time. -/
theorem isSome_bucket?_since (before : List Step) {since : List Step}
    (silent : .check a ∉ since) :
    ((t.run (before ++ .check a :: since)).2.limiter.bucket? a).isSome = true ↔
      Spared 0 since := by
  have asked : ((t.run before).2.step (.check a)).2.limiter.Distinct :=
    distinct_check (distinct_run distinct before) _ a
  obtain ⟨b, left⟩ : ∃ b, ((t.run before).2.step (.check a)).2.limiter.bucket? a = some b :=
    ⟨_, bucket?_check_self _ _ a⟩
  have stamped : b.updated = (t.run before).2.now := updated_check left
  have since := isSome_bucket?_run asked left (Nat.le_of_eq stamped) silent
  have fresh : ((t.run before).2.step (.check a)).2.now - b.updated = 0 := by
    rw [stamped]
    exact Nat.sub_self _
  rw [fresh] at since
  rw [Timed.run_append, Timed.run_cons]
  exact since

end Since

section Empty

variable {t : Timed α} (empty : t.limiter.buckets = [])

include empty

omit [TokenArithmetic α] in
theorem bucket?_of_empty (a : Address) : t.limiter.bucket? a = none := by
  unfold bucket?
  rw [empty]
  rfl

omit [TokenArithmetic α] in
theorem distinct_of_empty : t.limiter.Distinct := by
  unfold Distinct
  rw [empty]
  exact List.nodup_nil

/-- A client has a bucket exactly if its latest check lasts. -/
theorem isSome_bucket?_iff_lasts (a : Address) (history : List Step) :
    ((t.run history).2.limiter.bucket? a).isSome = true ↔ Lasts a history := by
  have distinct : t.limiter.Distinct := distinct_of_empty empty
  constructor
  · intro present
    by_cases asked : .check a ∈ history
    · obtain ⟨before, since, rfl, silent⟩ := exists_last_check asked
      exact ⟨before, since, rfl, silent, (isSome_bucket?_since distinct before silent).mp present⟩
    · have missing := bucket?_run_eq_none distinct asked (bucket?_of_empty empty a)
      rw [missing] at present
      exact absurd present Bool.false_ne_true
  · rintro ⟨before, since, rfl, silent, spared⟩
    exact (isSome_bucket?_since distinct before silent).mpr spared

end Empty

/-! ## Other names -/

/-- The step with another name for its client. -/
def Step.renamed (σ : Equiv.Perm Address) : Step → Step
  | .check a => .check (σ a)
  | .advance nanos => .advance nanos
  | .prune maxIdle => .prune maxIdle

/-- The limiters agree in all but the names of their clients. -/
structure Renamed (σ : Equiv.Perm Address) (t u : Timed α) : Prop where
  now : u.now = t.now
  rate : u.limiter.rate = t.limiter.rate
  capacity : u.limiter.capacity = t.limiter.capacity
  bucket : ∀ c, u.limiter.bucket? (σ c) = t.limiter.bucket? c
  distinct : t.limiter.Distinct ∧ u.limiter.Distinct

section Renaming

variable {σ : Equiv.Perm Address} {t u : Timed α}

/-- A step under the other name has the same outcome and keeps the agreement. -/
theorem step_renamed (h : Renamed σ t u) (next : Step) :
    (u.step (next.renamed σ)).1 = (t.step next).1 ∧
      Renamed σ (t.step next).2 (u.step (next.renamed σ)).2 := by
  cases next with
  | check a =>
      have same : (u.limiter.found u.now (σ a)).acquire u.limiter.capacity u.limiter.rate u.now =
          (t.limiter.found t.now a).acquire t.limiter.capacity t.limiter.rate t.now := by
        unfold found
        rw [h.bucket, h.capacity, h.rate, h.now]
      refine ⟨congrArg (fun outcome : Bool × Bucket α => some outcome.1) same, ?_⟩
      refine ⟨h.now, h.rate, h.capacity, fun c => ?_,
        distinct_check h.distinct.1 t.now a, distinct_check h.distinct.2 u.now (σ a)⟩
      show (u.limiter.check u.now (σ a)).2.bucket? (σ c) = (t.limiter.check t.now a).2.bucket? c
      by_cases own : c = a
      · subst own
        rw [bucket?_check_self, bucket?_check_self, same]
      · have other : σ c ≠ σ a := fun equal => own (σ.injective equal)
        rw [bucket?_check_of_ne _ _ other, bucket?_check_of_ne _ _ own]
        exact h.bucket c
  | advance nanos =>
      exact ⟨rfl, congrArg (· + nanos) h.now, h.rate, h.capacity, h.bucket, h.distinct⟩
  | prune maxIdle =>
      refine ⟨rfl, h.now, h.rate, h.capacity, fun c => ?_,
        distinct_prune h.distinct.1 t.now maxIdle, distinct_prune h.distinct.2 u.now maxIdle⟩
      show (u.limiter.prune u.now maxIdle).bucket? (σ c) = (t.limiter.prune t.now maxIdle).bucket? c
      rw [bucket?_prune h.distinct.2, bucket?_prune h.distinct.1, h.bucket, h.now]

/-- By induction on the steps, with `Renamed` as the invariant. -/
theorem run_renamed (h : Renamed σ t u) (steps : List Step) :
    (u.run (steps.map (Step.renamed σ))).1 = (t.run steps).1 ∧
      Renamed σ (t.run steps).2 (u.run (steps.map (Step.renamed σ))).2 := by
  induction steps generalizing t u with
  | nil => exact ⟨rfl, h⟩
  | cons next rest ih =>
      obtain ⟨outcome, after⟩ := step_renamed h next
      obtain ⟨outcomes, final⟩ := ih after
      rw [List.map_cons, Timed.run_cons, Timed.run_cons, outcome, outcomes]
      exact ⟨rfl, final⟩

omit [TokenArithmetic α] in
/-- So they have equally many clients. -/
theorem Renamed.tracked (h : Renamed σ t u) : u.limiter.tracked = t.limiter.tracked := by
  have once : (t.limiter.clients.map σ).Nodup := List.Nodup.map σ.injective h.distinct.1
  have same : u.limiter.clients.Perm (t.limiter.clients.map σ) := by
    refine (List.perm_ext_iff_of_nodup h.distinct.2 once).mpr fun a => ?_
    obtain ⟨c, rfl⟩ := σ.surjective a
    show σ c ∈ u.limiter.clients ↔ σ c ∈ t.limiter.clients.map σ
    rw [mem_clients_iff, h.bucket, ← mem_clients_iff, List.mem_map_of_injective σ.injective]
  rw [← length_clients, ← length_clients, same.length_eq, List.length_map]

end Renaming

theorem map_renamed_refl (steps : List Step) :
    steps.map (Step.renamed (Equiv.refl Address)) = steps := by
  have same : Step.renamed (Equiv.refl Address) = id := by
    funext step
    cases step <;> rfl
  rw [same, List.map_id]

/-! ## Clients without a bucket -/

/-- The history without the checks of a client. -/
def unseen (a : Address) (history : List Step) : List Step := history.filter (· ≠ .check a)

theorem check_not_mem_unseen (a : Address) (history : List Step) : .check a ∉ unseen a history := by
  intro mem
  exact of_decide_eq_true (List.mem_filter.mp mem).2 rfl

omit [TokenArithmetic α] in
theorem Alike.symm {a : Address} {t u : Timed α} (h : Alike a t u) : Alike a u t :=
  ⟨h.now.symm, h.rate.symm, h.capacity.symm, h.bucket.symm, h.distinct.symm⟩

/-- Any step may be made on both sides, also a check of somebody else. -/
theorem step_alike_both {c : Address} {t u : Timed α} (h : Alike c t u) (next : Step) :
    Alike c (t.step next).2 (u.step next).2 := by
  cases foreign : next.isForeign c with
  | false => exact (step_alike h foreign).2
  | true =>
      obtain ⟨d, rfl, other⟩ := Step.eq_check_of_isForeign foreign
      exact (alike_foreign (alike_foreign h other).symm other).symm

/-- The other clients cannot notice that the checks of one are left out. -/
theorem run_unseen_alike {a c : Address} (other : a ≠ c) {t u : Timed α} (h : Alike c t u)
    (history : List Step) : Alike c (t.run history).2 (u.run (unseen a history)).2 := by
  induction history generalizing t u with
  | nil => exact h
  | cons next rest ih =>
      unfold unseen at ih ⊢
      by_cases own : next = .check a
      · subst own
        rw [List.filter_cons_of_neg (by simp)]
        exact ih (alike_foreign h other)
      · rw [List.filter_cons_of_pos (by simpa using own)]
        exact ih (step_alike_both h next)

omit [TokenArithmetic α] in
/-- Two clients without a bucket may be exchanged. -/
theorem renamed_swap {t : Timed α} {a c : Address} (distinct : t.limiter.Distinct)
    (missing : t.limiter.bucket? a = none) (missing' : t.limiter.bucket? c = none) :
    Renamed (Equiv.swap a c) t t := by
  refine ⟨rfl, rfl, rfl, fun d => ?_, distinct, distinct⟩
  by_cases left : d = a
  · rw [left, Equiv.swap_apply_left, missing, missing']
  · by_cases right : d = c
    · rw [right, Equiv.swap_apply_right, missing, missing']
    · rw [Equiv.swap_apply_of_ne_of_ne left right]

/-- If a client has no bucket, its checks have left no trace. -/
theorem renamed_unseen {t : Timed α} {a : Address} (empty : t.limiter.buckets = [])
    {history : List Step} (missing : (t.run history).2.limiter.bucket? a = none) :
    Renamed (Equiv.refl Address) (t.run history).2 (t.run (unseen a history)).2 := by
  have distinct : t.limiter.Distinct := distinct_of_empty empty
  have others : ∀ c, a ≠ c → Alike c (t.run history).2 (t.run (unseen a history)).2 :=
    fun c other => run_unseen_alike other ⟨rfl, rfl, rfl, rfl, distinct, distinct⟩ history
  have missing' : (t.run (unseen a history)).2.limiter.bucket? a = none :=
    bucket?_run_eq_none distinct (check_not_mem_unseen a history) (bucket?_of_empty empty a)
  obtain ⟨d, differ⟩ := exists_ne a
  have alike := others d differ.symm
  refine ⟨alike.now, alike.rate, alike.capacity, fun c => ?_, alike.distinct⟩
  show (t.run (unseen a history)).2.limiter.bucket? c = (t.run history).2.limiter.bucket? c
  by_cases own : a = c
  · rw [← own, missing, missing']
  · exact (others c own).bucket

/-! ## Every history -/

/-- **What the limiter tracks.**  After any history of checks, clock advances and prunings the
clients with a bucket are those whose latest check, granted or denied, no pruning since has found
too old, and `tracked` counts them.  Any other client is as good as new: it may change places with
one that was never checked, and its checks may be left out of the history. -/
theorem tracked_history (s : LimitSettings) (history : List Step) :
    let start : Timed Binary64 := ⟨0, .ofSettings s⟩
    let t := (start.run history).2
    (t.limiter.clients.Nodup ∧ (∀ a, a ∈ t.limiter.clients ↔ Lasts a history) ∧
      t.limiter.tracked = t.limiter.clients.length) ∧
    ∀ a, ¬ Lasts a history → ∀ steps,
      (∀ c, .check c ∉ history →
        let swapped := t.run (steps.map (Step.renamed (Equiv.swap a c)))
        swapped.1 = (t.run steps).1 ∧ swapped.2.limiter.tracked = (t.run steps).2.limiter.tracked) ∧
      (let first := (start.run (unseen a history)).2.run steps
       first.1 = (t.run steps).1 ∧ first.2.limiter.tracked = (t.run steps).2.limiter.tracked) := by
  intro start t
  have empty : start.limiter.buckets = [] := rfl
  have distinct : t.limiter.Distinct := distinct_run (distinct_of_empty empty) history
  have kept : ∀ a, a ∈ t.limiter.clients ↔ Lasts a history := fun a =>
    (mem_clients_iff t.limiter a).trans (isSome_bucket?_iff_lasts empty a history)
  refine ⟨⟨distinct, kept, (length_clients t.limiter).symm⟩, fun a gone steps => ?_⟩
  have missing : ∀ c, ¬ Lasts c history → t.limiter.bucket? c = none := fun c gone => by
    rwa [← kept, mem_clients_iff, Bool.not_eq_true, Option.isSome_eq_false_iff,
      Option.isNone_iff_eq_none] at gone
  constructor
  · intro c never
    have swap : Renamed (Equiv.swap a c) t t :=
      renamed_swap distinct (missing a gone) (missing c fun lasts => never lasts.checked)
    obtain ⟨outcomes, final⟩ := run_renamed swap steps
    exact ⟨outcomes, final.tracked⟩
  · obtain ⟨outcomes, final⟩ := run_renamed (renamed_unseen empty (missing a gone)) steps
    rw [map_renamed_refl] at outcomes final
    exact ⟨outcomes, final.tracked⟩

/-- The denied check of `a` keeps its bucket for as long as the prunings allow from then on.  The
last one takes the bucket, and `a` is granted a burst again, like `d` that was never checked. -/
theorem tracked_history_readmitted :
    let a : Address := .v4 0x01020304#32
    let c : Address := .v6 0x20010db8000000000000000000000001#128
    let d : Address := .v4 0x05060708#32
    let s : LimitSettings := { enabled := true, requestsPerSecond := 1, burst := 1 }
    let start : Timed Binary64 := ⟨0, .ofSettings s⟩
    let early : List Step := [.check a, .advance 5, .check a, .prune 4, .advance 3, .prune 3]
    let history : List Step := early ++ [.check c, .advance 1, .prune 3]
    let t := (start.run history).2
    Lasts a early ∧ ¬ Lasts a history ∧ Lasts c history ∧ t.limiter.tracked = 1 ∧
      (t.run [.check d, .check d, .check c]).1 = (t.run [.check a, .check a, .check c]).1 ∧
      (t.run [.check a, .check a, .check c]).1 = [some true, some false, some false] := by
  intro a c d s start early history t
  have clientsEarly : (start.run early).2.limiter.clients = [a] := by decide +kernel
  have clients : t.limiter.clients = [c] := by decide +kernel
  obtain ⟨⟨_, lastsEarly, _⟩, _⟩ := tracked_history s early
  obtain ⟨⟨_, lasts, tracked⟩, new⟩ := tracked_history s history
  have keptEarly : Lasts a early := by
    rw [← lastsEarly, clientsEarly]
    exact List.mem_singleton_self a
  have gone : ¬ Lasts a history := by
    rw [← lasts, clients]
    decide
  have kept : Lasts c history := by
    rw [← lasts, clients]
    exact List.mem_singleton_self c
  have renamed : [Step.check a, .check a, .check c].map (Step.renamed (Equiv.swap a d)) =
      [.check d, .check d, .check c] := by decide +kernel
  obtain ⟨same, _⟩ := (new a gone [.check a, .check a, .check c]).1 d (by decide)
  rw [renamed] at same
  refine ⟨keptEarly, gone, kept, ?_, same, by decide +kernel⟩
  rw [tracked, clients]
  rfl

end ClientOrigin.Limiter
