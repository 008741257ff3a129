import ClientOrigin.Proofs.Limit.Gauge

/-!
# Denied checks

A denied check takes no token, but it refills its bucket and stamps it.  Exact refills add up, so
that it leaves no trace.  Rounded ones add up only nearly, and a count close to one may come to lie
on the other side of it.

* `Thinned` — a run and the same run without some of its denied checks;
* `Near` — two limiters whose buckets have nearly the same tokens, now and at all later times; it
  is kept by a step that both take and by a denied check that only one of them is asked
  (`Near.step`, `Near.denied`);
* `Near.diverges` — so the two runs have the same outcomes up to a check that they decide
  differently, which counts nearly one token (`Near.of_differ`); `thinned_outcomes` says how nearly.
-/

namespace ClientOrigin

open TokenArithmetic

namespace Limiter

variable {α : Type} [TokenArithmetic α]

/-! ## Runs without denied checks -/

/-- A run without pruning, the same run without some of its denied checks, and the outcomes of the
steps that are left. -/
inductive Thinned : Timed α → (steps left : List Step) → List (Option Bool) → Prop
  | nil (t : Timed α) : Thinned t [] [] []
  | kept {t : Timed α} {step : Step} {steps left : List Step} {outcomes : List (Option Bool)}
      (stays : step.isPrune = false) (rest : Thinned (t.step step).2 steps left outcomes) :
      Thinned t (step :: steps) (step :: left) ((t.step step).1 :: outcomes)
  | denied {t : Timed α} {a : Address} {steps left : List Step} {outcomes : List (Option Bool)}
      (no : (t.step (.check a)).1 = some false)
      (rest : Thinned (t.step (.check a)).2 steps left outcomes) :
      Thinned t (.check a :: steps) left outcomes

namespace Gauge

variable {capacity rate : α} {g : Gauge α capacity rate} {t u : Timed α} {d : Address → Rat}

/-! ## Two limiters -/

variable (g) in
/-- The buckets of two limiters have nearly the same tokens now, each client's up to a bound. -/
structure Near (d : Address → Rat) (t u : Timed α) : Prop where
  now : u.now = t.now
  left : g.Sound t
  right : g.Sound u
  close : ∀ a, |g.level (t.limiter.found t.now a) t.now -
    g.level (u.limiter.found t.now a) t.now| ≤ d a

variable (g) in
/-- The bounds after some steps: each check of a client makes four small errors at most. -/
def drift (d : Address → Rat) (steps : List Step) (a : Address) : Rat :=
  d a + 4 * g.error * (steps.count (.check a) : Nat)

theorem drift_nil : g.drift d [] = d := by
  funext a
  unfold drift
  rw [List.count_nil, Nat.cast_zero, mul_zero, add_zero]

theorem drift_cons (step : Step) (rest : List Step) :
    g.drift d (step :: rest) = g.drift (g.drift d [step]) rest := by
  funext a
  unfold drift
  rw [← List.singleton_append, List.count_append, Nat.cast_add]
  ring

theorem drift_check_self (a : Address) : g.drift d [.check a] a = d a + 4 * g.error := by
  unfold drift
  rw [List.count_singleton_self, Nat.cast_one, mul_one]

theorem drift_advance (nanos : Nat) : g.drift d [.advance nanos] = d := by
  funext a
  have none : [Step.advance nanos].count (.check a) = 0 :=
    List.count_eq_zero.mpr fun mem => Step.noConfusion (List.mem_singleton.mp mem)
  unfold drift
  rw [none, Nat.cast_zero, mul_zero, add_zero]

theorem le_drift (steps : List Step) (a : Address) : d a ≤ g.drift d steps a :=
  le_add_of_nonneg_right (mul_nonneg (mul_nonneg (by norm_num) g.error_nonneg) (Nat.cast_nonneg _))

section Near

variable (near : g.Near d t u)

include near

/-- Both limiters count nearly the same. -/
theorem Near.reading (a : Address) : |g.reading t a - g.reading u a| ≤ d a + 2 * g.error := by
  have one := abs_le.mp (near.left.asked a).2
  have other := abs_le.mp (near.right.asked a).2
  have close := abs_le.mp (near.close a)
  rw [near.now] at other
  rw [abs_le]
  constructor
  · linarith
  · linarith

/-- If they decide differently, both count nearly one. -/
theorem Near.of_differ {a : Address}
    (differ : (t.step (.check a)).1 ≠ (u.step (.check a)).1) :
    |g.reading t a - 1| ≤ d a + 2 * g.error ∧ |g.reading u a - 1| ≤ d a + 2 * g.error := by
  have close := abs_le.mp (near.reading a)
  rw [near.left.outcome, near.right.outcome] at differ
  by_cases token : 1 ≤ g.reading t a
  · by_cases token' : 1 ≤ g.reading u a
    · exact absurd (by rw [decide_eq_true token, decide_eq_true token']) differ
    · rw [abs_le, abs_le]
      refine ⟨⟨?_, ?_⟩, ?_, ?_⟩ <;> linarith
  · by_cases token' : 1 ≤ g.reading u a
    · rw [abs_le, abs_le]
      refine ⟨⟨?_, ?_⟩, ?_, ?_⟩ <;> linarith
    · exact absurd (by rw [decide_eq_false token, decide_eq_false token']) differ

theorem Near.advance {nanos : Nat} (ticks : g.tick ∣ nanos) :
    g.Near d (t.step (.advance nanos)).2 (u.step (.advance nanos)).2 := by
  refine ⟨congrArg (· + nanos) near.now, near.left.advance ticks, near.right.advance ticks, ?_⟩
  intro a
  have right := near.right.level_found_later nanos a (t.now + nanos)
  rw [near.now] at right
  have stamped := near.right.stamped a
  rw [near.now] at stamped
  show |g.level (t.limiter.found (t.now + nanos) a) (t.now + nanos) -
    g.level (u.limiter.found (t.now + nanos) a) (t.now + nanos)| ≤ d a
  rw [near.left.level_found_later, right]
  exact le_trans (g.abs_level_sub_later_le (near.left.stamped a) stamped
    (Nat.le_add_right t.now nanos)) (near.close a)

/-- A check with the same outcome on both sides. -/
theorem Near.check {a : Address} (same : (t.step (.check a)).1 = (u.step (.check a)).1) :
    g.Near (g.drift d [.check a]) (t.step (.check a)).2 (u.step (.check a)).2 := by
  refine ⟨near.now, near.left.check a, near.right.check a, fun c => ?_⟩
  show |g.level ((t.step (.check a)).2.limiter.found t.now c) t.now -
    g.level ((u.step (.check a)).2.limiter.found t.now c) t.now| ≤ _
  by_cases own : c = a
  · subst own
    have close := abs_le.mp (near.reading c)
    have small := g.error_nonneg
    have right := near.right.found_self c
    rw [near.now] at right
    rw [near.left.outcome, near.right.outcome, Option.some.injEq, decide_eq_decide] at same
    rw [near.left.found_self, right, drift_check_self]
    -- both buckets are stamped now, so the tokens that are left in them decide
    by_cases token : 1 ≤ g.reading t c
    · have token' := same.mp token
      have fits := (near.left.asked c).1
      have fits' := (near.right.asked c).1
      have left := abs_le.mp (g.spent _ fits ((g.hasToken_iff _ fits).mpr token)).2
      have left' := abs_le.mp (g.spent _ fits' ((g.hasToken_iff _ fits').mpr token')).2
      unfold Gauge.reading at close
      rw [if_pos token, if_pos token']
      refine le_trans (g.abs_level_sub_le near.now t.now) ?_
      rw [abs_le]
      constructor
      · linarith
      · linarith
    · rw [if_neg token, if_neg fun token' => token (same.mpr token')]
      refine le_trans (g.abs_level_sub_le near.now t.now) (le_trans (near.reading c) ?_)
      linarith
  · rw [found_check_of_ne t t.now own, found_check_of_ne u t.now own]
    exact le_trans (near.close c) (le_drift _ c)

/-- A step that both limiters take, with the same outcome. -/
theorem Near.step {step : Step} (stays : step.isPrune = false)
    (ticks : ∀ nanos, step = .advance nanos → g.tick ∣ nanos)
    (same : (t.step step).1 = (u.step step).1) :
    g.Near (g.drift d [step]) (t.step step).2 (u.step step).2 := by
  cases step with
  | check a => exact near.check same
  | advance nanos =>
      rw [drift_advance]
      exact near.advance (ticks nanos rfl)
  | prune maxIdle => exact Bool.noConfusion stays

/-- A denied check on one side alone. -/
theorem Near.denied {a : Address} (no : (t.step (.check a)).1 = some false) :
    g.Near (g.drift d [.check a]) (t.step (.check a)).2 u := by
  refine ⟨near.now, near.left.check a, near.right, fun c => ?_⟩
  show |g.level ((t.step (.check a)).2.limiter.found t.now c) t.now -
    g.level (u.limiter.found t.now c) t.now| ≤ _
  by_cases own : c = a
  · subst own
    have small := g.error_nonneg
    have close := abs_le.mp (near.close c)
    have moved := abs_le.mp (near.left.level_asked c)
    rw [near.left.outcome, Option.some.injEq, decide_eq_false_iff_not] at no
    rw [near.left.found_self, if_neg no, drift_check_self]
    rw [abs_le]
    constructor
    · linarith
    · linarith
  · rw [found_check_of_ne t t.now own]
    exact le_trans (near.close c) (le_drift _ c)

end Near

/-! ## Whole runs -/

/-- The two runs have the same outcomes, or there is a first check that they decide differently,
and up to it they have stayed near. -/
theorem Near.diverges (near : g.Near d t u) {steps left : List Step}
    {outcomes : List (Option Bool)} (thinned : Thinned t steps left outcomes)
    (ticks : ∀ nanos, .advance nanos ∈ steps → g.tick ∣ nanos) :
    (u.run left).1 = outcomes ∨
      ∃ front a back front' back', steps = front ++ .check a :: back ∧
        left = front' ++ .check a :: back' ∧ Thinned t front front' (u.run front').1 ∧
        g.Near (g.drift d front) (t.run front).2 (u.run front').2 ∧
        ((t.run front).2.step (.check a)).1 ≠ ((u.run front').2.step (.check a)).1 := by
  -- both runs are followed from where they are, with the bounds that they have drifted to
  induction thinned generalizing d u with
  | nil t => exact .inl rfl
  | @kept t step steps left outcomes stays rest ih =>
      have ticksRest : ∀ nanos, .advance nanos ∈ steps → g.tick ∣ nanos := fun nanos mem =>
        ticks nanos (List.mem_cons_of_mem step mem)
      by_cases same : (t.step step).1 = (u.step step).1
      · have tick : ∀ nanos, step = .advance nanos → g.tick ∣ nanos := fun nanos own =>
          ticks nanos (own ▸ List.mem_cons_self)
        have next := near.step stays tick same
        rcases ih next ticksRest with equal | ⟨front, a, back, front', back', rfl, rfl, before,
          close, differ⟩
        · rw [Timed.run_cons, equal, same]
          exact .inl rfl
        · refine .inr ⟨step :: front, a, back, step :: front', back', rfl, rfl, ?_, ?_, differ⟩
          · rw [Timed.run_cons, ← same]
            exact .kept stays before
          · rw [drift_cons]
            exact close
      · cases step with
        | check a =>
            refine .inr ⟨[], a, steps, [], left, rfl, rfl, .nil t, ?_, same⟩
            rw [drift_nil]
            exact near
        | advance nanos => exact absurd rfl same
        | prune maxIdle => exact Bool.noConfusion stays
  | @denied t a steps left outcomes no rest ih =>
      have ticksRest : ∀ nanos, .advance nanos ∈ steps → g.tick ∣ nanos := fun nanos mem =>
        ticks nanos (List.mem_cons_of_mem _ mem)
      rcases ih (near.denied no) ticksRest with equal | ⟨front, c, back, front', back', rfl, rfl,
        before, close, differ⟩
      · exact .inl equal
      · refine .inr ⟨.check a :: front, c, back, front', back', rfl, rfl, .denied no before, ?_,
          differ⟩
        rw [drift_cons]
        exact close

/-- Without errors there is no such check. -/
theorem Near.run_exact (exact : g.error = 0) (near : g.Near (fun _ => 0) t u)
    {steps left : List Step} {outcomes : List (Option Bool)}
    (thinned : Thinned t steps left outcomes)
    (ticks : ∀ nanos, .advance nanos ∈ steps → g.tick ∣ nanos) : (u.run left).1 = outcomes := by
  rcases near.diverges thinned ticks with equal | ⟨front, a, _, _, _, _, _, _, close, differ⟩
  · exact equal
  · have bound : g.drift (fun _ => 0) front a + 2 * g.error = 0 := by
      unfold drift
      rw [exact]
      ring
    obtain ⟨one, one'⟩ := close.of_differ differ
    rw [bound] at one one'
    -- both count a whole token, so both grant it
    have token := eq_of_abs_sub_nonpos one
    have token' := eq_of_abs_sub_nonpos one'
    rw [close.left.outcome, close.right.outcome, token, token'] at differ
    exact absurd rfl differ

/-! ## From the start -/

section Start

variable {rate burst : Nat}

theorem Sound.start (g : Gauge α (ofNat burst) (ofNat rate)) : g.Sound ⟨0, .start rate burst⟩ :=
  ⟨rfl, rfl, Nat.dvd_zero _, fun _ => g.full, fun _ => Nat.le_refl 0, fun _ => Nat.dvd_zero _⟩

theorem Near.start (g : Gauge α (ofNat burst) (ofNat rate)) :
    g.Near (fun _ => 0) ⟨0, .start rate burst⟩ ⟨0, .start rate burst⟩ := by
  refine ⟨rfl, .start g, .start g, fun a => ?_⟩
  rw [sub_self, abs_zero]

end Start

/-- The tokens that a check counts are those of the bucket that it finds ready. -/
theorem Sound.reading_eq {rate burst : Nat} {smallRate : rate < 2 ^ 32}
    {smallBurst : burst < 2 ^ 32} {t : Timed Binary64}
    (h : (rounded smallRate smallBurst).Sound t) (a : Address) :
    (rounded smallRate smallBurst).reading t a = (t.ready a).tokens.value := by
  unfold Timed.ready
  rw [h.capacity, h.rate]
  rfl

end Gauge

/-! ## Which outcomes change -/

/-- How far from one the tokens of a client may be where a denied check that is left out changes
an outcome, after the given number of checks of this client. -/
def slack (burst checks : Nat) : Rat := (2 * checks + 1) * burst / 2 ^ 49

/-- The first outcome that leaving out denied checks changes is that of a check at which either
run counts one token, up to the slack. -/
def ChangesNearOne (t : Timed Binary64) (burst : Nat) (steps left : List Step) : Prop :=
  ∃ front a back front' back', steps = front ++ .check a :: back ∧
    left = front' ++ .check a :: back' ∧ Thinned t front front' (t.run front').1 ∧
    ((t.run front).2.step (.check a)).1 ≠ ((t.run front').2.step (.check a)).1 ∧
    |((t.run front).2.ready a).tokens.value - 1| ≤ slack burst (front.count (.check a)) ∧
    |((t.run front').2.ready a).tokens.value - 1| ≤ slack burst (front.count (.check a))

/-- **Denied checks.**  Leaving out denied checks changes no other outcome if tokens are counted
exactly, and none either if they are rounded and the clock moves by 1/512 seconds at a time.  At
other times it does so only where the tokens are nearly one. -/
theorem thinned_outcomes (s : LimitSettings) (steps left : List Step)
    (outcomes : List (Option Bool)) :
    (Thinned (⟨0, start s.requestsPerSecond.toNat s.burst.toNat⟩ : Timed Rat) steps left outcomes →
      (Timed.run (⟨0, start s.requestsPerSecond.toNat s.burst.toNat⟩ : Timed Rat) left).1 =
        outcomes) ∧
    (Thinned ⟨0, .ofSettings s⟩ steps left outcomes →
      ((∀ nanos, .advance nanos ∈ steps → Binary64.tick ∣ nanos) →
        (Timed.run ⟨0, .ofSettings s⟩ left).1 = outcomes) ∧
      ((Timed.run ⟨0, .ofSettings s⟩ left).1 = outcomes ∨
        ChangesNearOne ⟨0, .ofSettings s⟩ s.burst.toNat steps left)) := by
  have smallRate := s.requestsPerSecond.toNat_lt
  have smallBurst := s.burst.toNat_lt
  refine ⟨fun thinned => ?_, fun thinned => ⟨fun ticks => ?_, ?_⟩⟩
  · exact (Gauge.Near.start (.exactly _ _)).run_exact rfl thinned fun nanos _ => Nat.one_dvd nanos
  · exact (Gauge.Near.start (.onGrid smallRate smallBurst)).run_exact rfl thinned ticks
  · have start := Gauge.Near.start (.rounded smallRate smallBurst)
    rcases start.diverges thinned fun nanos _ => Nat.one_dvd nanos with equal | ⟨front, a, back,
      front', back', whole, whole', before, close, differ⟩
    · exact .inl equal
    · have bound : (Gauge.rounded smallRate smallBurst).drift (fun _ => 0) front a +
          2 * (Gauge.rounded smallRate smallBurst).error =
          slack s.burst.toNat (front.count (.check a)) := by
        unfold Gauge.drift slack
        show 0 + 4 * (s.burst.toNat / 2 ^ 50 : Rat) * _ + 2 * (s.burst.toNat / 2 ^ 50 : Rat) = _
        ring
      obtain ⟨one, one'⟩ := close.of_differ differ
      rw [bound, close.left.reading_eq] at one
      rw [bound, close.right.reading_eq] at one'
      exact .inr ⟨front, a, back, front', back', whole, whole', before, differ, one, one'⟩

/-- A client that asks a second time in between. -/
def polling (a : Address) (wait rest : Nat) : List Step :=
  [.check a, .advance wait, .check a, .advance rest, .check a]

/-- A client that stays silent. -/
def silent (a : Address) (wait rest : Nat) : List Step :=
  [.check a, .advance wait, .advance rest, .check a]

theorem thinned_polling {t : Timed α} {a : Address} {wait rest : Nat} {first last : Option Bool}
    (outcomes : (t.run (polling a wait rest)).1 = [first, none, some false, none, last]) :
    Thinned t (polling a wait rest) (silent a wait rest) [first, none, none, last] := by
  simp only [polling, Timed.run_cons, List.cons.injEq] at outcomes
  obtain ⟨rfl, -, no, -, rfl, -⟩ := outcomes
  exact .kept rfl (.kept rfl (.denied no (.kept rfl (.kept rfl (.nil _)))))

/-- One token a second: after half a second a client is denied, and after another half it is
granted, whether it has asked in between or not.  Five tokens a second: rounding decides. -/
theorem thinned_outcomes_polling :
    let a : Address := .v4 0x01020304#32
    let s : LimitSettings := { enabled := true, requestsPerSecond := 1, burst := 1 }
    let s' : LimitSettings := { enabled := true, requestsPerSecond := 5, burst := 1 }
    let half := 500000000
    ((Timed.run (⟨0, start 1 1⟩ : Timed Rat) (silent a half half)).1 =
        [some true, none, none, some true] ∧
      (∀ nanos, .advance nanos ∈ polling a half half → Binary64.tick ∣ nanos) ∧
      (Timed.run ⟨0, .ofSettings s⟩ (silent a half half)).1 =
        [some true, none, none, some true]) ∧
    (Timed.run ⟨0, .ofSettings s'⟩ (silent a 20000000 180000000)).1 ≠
        [some true, none, none, some false] ∧
      ChangesNearOne ⟨0, .ofSettings s'⟩ 1 (polling a 20000000 180000000)
        (silent a 20000000 180000000) := by
  intro a s s' half
  have ticks : ∀ nanos, .advance nanos ∈ polling a half half → Binary64.tick ∣ nanos := by
    intro nanos mem
    have same : nanos = half := by simpa [polling] using mem
    rw [same]
    decide
  have exact : Thinned (⟨0, start 1 1⟩ : Timed Rat) (polling a half half) (silent a half half)
      [some true, none, none, some true] := thinned_polling (by decide +kernel)
  have rounded : Thinned ⟨0, .ofSettings s⟩ (polling a half half) (silent a half half)
      [some true, none, none, some true] := thinned_polling (by decide +kernel)
  have delayed : Thinned ⟨0, .ofSettings s'⟩ (polling a 20000000 180000000)
      (silent a 20000000 180000000) [some true, none, none, some false] :=
    thinned_polling (by decide +kernel)
  have changed : (Timed.run ⟨0, .ofSettings s'⟩ (silent a 20000000 180000000)).1 ≠
      [some true, none, none, some false] := by decide +kernel
  obtain ⟨granted, _⟩ := (thinned_outcomes s _ _ _).2 rounded
  obtain ⟨_, nearOne⟩ := (thinned_outcomes s' _ _ _).2 delayed
  exact ⟨⟨(thinned_outcomes s _ _ _).1 exact, ticks, granted ticks⟩, changed,
    nearOne.resolve_left changed⟩

/-- With five requests a second a client has a token again after a fifth of a second, unless it
asks in between: the two refills are rounded to a little less than a token. -/
theorem denied_check_delays :
    let a : Address := .v4 0x01020304#32
    let s : LimitSettings := { enabled := true, requestsPerSecond := 5, burst := 1 }
    Settings.limitProblems { limit := s } = [] ∧
      Thinned ⟨0, .ofSettings s⟩ (polling a 20000000 180000000) (silent a 20000000 180000000)
        [some true, none, none, some false] ∧
      (Timed.run ⟨0, .ofSettings s⟩ (silent a 20000000 180000000)).1 =
        [some true, none, none, some true] := by
  intro a s
  exact ⟨by decide, thinned_polling (by decide +kernel), by decide +kernel⟩

end Limiter

end ClientOrigin
