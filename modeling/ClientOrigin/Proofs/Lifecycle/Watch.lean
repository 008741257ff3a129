import ClientOrigin.Lifecycle.Watch
import ClientOrigin.Proofs.Lifecycle.Signal

/-!
# Only a signal stops a server

The channel tells a waiting server of a value, of values that it has missed, or that the channel is
closed, and the coordinator may signal and go in any order with the polls of the wait.

* `Phase` — all that matters of a wait, with its own steps;
* `Shows` — a wait is in a phase.  `Shows.step` is the step lemma and `Shows.run` the run lemma;
* `Prior` — one event comes before another one, and a poll after it; the runs of a phase
  are told in these terms (`Phase.run_quiet`);
* `run_wait_iff` — so for every interleaving, and `stops_iff_triggered` for schedules without end
  as well.
-/

namespace ClientOrigin

namespace Shutdown

/-! ## Steps of the others -/

/-- The step does not touch the subscriber; only the subscriber itself looks and leaves. -/
def Step.IsForeign (i : Nat) (next : Step) : Prop := next ≠ .receive i ∧ next ≠ .unsubscribe i
  deriving Decidable

section Foreign

variable {s t : Shutdown} {next : Step} {answer : Answer} (moves : s.Moves next answer t)

include moves

/-- A signal is sent as long as the coordinator is there. -/
theorem Moves.isTrigger_iff :
    isTrigger (next, answer) = true ↔ s.isOpen = true ∧ next = .trigger := by
  cases moves with
  | triggered active => exact iff_of_true rfl ⟨active, rfl⟩
  | late shut sending =>
      rw [shut]
      rcases sending with rfl | rfl
      · simp [isTrigger]
      · simp [isTrigger]
  | _ => simp [isTrigger]

/-- Only the coordinator itself closes the channel. -/
theorem Moves.isOpen_iff : t.isOpen = true ↔ s.isOpen = true ∧ next ≠ .close := by
  cases moves with
  | closed active => simp
  | late shut sending =>
      rw [shut]
      simp
  | again shut =>
      rw [shut]
      simp
  | _ => simp

/-- A step of the others leaves the cursor of a subscriber where it is, and a trigger sends a
signal, since there is a subscriber. -/
theorem Moves.of_isForeign {i cursor : Nat} (here : s.cursor? i = some cursor)
    (behind : cursor ≤ s.sent) (foreign : next.IsForeign i) :
    t.cursor? i = some cursor ∧
      t.sent = s.sent + (if s.isOpen = true ∧ next = .trigger then 1 else 0) := by
  have stays : (next, answer) ≠ (.unsubscribe i, .done true) := fun own =>
    foreign.2 (Prod.mk.inj own).1
  obtain ⟨cursorAfter, sentAfter, _⟩ := moves.follows here behind stays
  have nothing : told i (next, answer) = 0 := by
    unfold told
    split
    · next j what same =>
        rw [(Prod.mk.inj same).1] at foreign
        exact if_neg fun own => foreign.1 (by rw [own])
    · rfl
  rw [nothing, Nat.add_zero] at cursorAfter
  simp only [moves.isTrigger_iff] at sentAfter
  exact ⟨cursorAfter, sentAfter⟩

end Foreign

end Shutdown

namespace Watch

open Shutdown (Step)

/-! ## Phases -/

/-- How far a wait has come: nothing was sent, a signal waits for it, the coordinator went without
one, it is completed, or it waits for good. -/
inductive Phase where
  | quiet
  | signalled
  | abandoned
  | stopped
  | never
  deriving DecidableEq, Repr

namespace Phase

/-- The phase after something has happened. -/
def next : Phase → Event → Phase
  | .quiet, .other .trigger => .signalled
  | .quiet, .other .close => .abandoned
  | .signalled, .poll => .stopped
  | .abandoned, .poll => .never
  | phase, _ => phase

/-- How a wait in the phase goes on. -/
def wait : Phase → Shutdown.Wait
  | .stopped => .stop
  | .never => .never
  | _ => .again

/-- The phase after one thing after another. -/
def run (phase : Phase) (events : List Event) : Phase := events.foldl next phase

/-- Only a trigger and a close are news. -/
theorem next_quiet {event : Event} (triggers : event ≠ .other .trigger)
    (closes : event ≠ .other .close) : next .quiet event = .quiet := by
  unfold next
  split <;> first | rfl | contradiction

end Phase

/-- The wait is in the phase. -/
def Shows (w : Watch) : Phase → Prop
  | .quiet => w.wait = .again ∧ w.coordinator.isOpen = true ∧
      w.coordinator.cursor? w.receiver = some w.coordinator.sent
  | .signalled => w.wait = .again ∧
      ∃ cursor < w.coordinator.sent, w.coordinator.cursor? w.receiver = some cursor
  | .abandoned => w.wait = .again ∧ w.coordinator.isOpen = false ∧
      w.coordinator.cursor? w.receiver = some w.coordinator.sent
  | .stopped => w.wait = .stop
  | .never => w.wait = .never

section Steps

variable {w : Watch}

/-- A wait that is over does nothing any more. -/
theorem poll_of_over (ended : w.wait ≠ .again) : w.poll = w := by
  unfold poll
  split
  · next going _ => exact absurd going ended
  · rfl

/-- A signal completes the wait, also one among others that it has missed. -/
theorem poll_of_behind {cursor : Nat} (going : w.wait = .again)
    (here : w.coordinator.cursor? w.receiver = some cursor)
    (behind : cursor < w.coordinator.sent) : w.poll.wait = .stop := by
  have looks : (w.coordinator.look cursor).1.wait = .stop := by
    unfold Shutdown.look
    rw [if_neg (Nat.not_le_of_lt behind)]
    split <;> rfl
  unfold poll Shutdown.receive
  rw [going, here, Option.map_some]
  dsimp only
  rw [looks]

/-- Without a signal the wait depends on the coordinator. -/
theorem poll_of_current (going : w.wait = .again)
    (here : w.coordinator.cursor? w.receiver = some w.coordinator.sent) :
    w.poll = { w with wait := if w.coordinator.isOpen then .again else .never } := by
  have inside : w.receiver < w.coordinator.cursors.length := Shutdown.lt_of_cursor here
  have looks : w.coordinator.look w.coordinator.sent =
      (if w.coordinator.isOpen then .empty else .closed, w.coordinator.sent) := by
    unfold Shutdown.look
    rw [if_pos (Nat.le_refl _)]
  have same : w.coordinator.cursors.set w.receiver (some w.coordinator.sent) =
      w.coordinator.cursors := by
    unfold Shutdown.cursor? at here
    rw [List.getElem?_eq_getElem inside, Option.join_some] at here
    rw [← here]
    exact List.set_getElem_self inside
  unfold poll Shutdown.receive
  rw [going, here, Option.map_some, looks]
  dsimp only
  rw [same]
  by_cases active : w.coordinator.isOpen = true
  · rw [if_pos active, if_pos active]
    rfl
  · rw [if_neg active, if_neg active]
    rfl

/-- By cases on the phase and on what happens: a poll finds what the phase says, and the others can
only send a signal or close the channel. -/
theorem Shows.step {phase : Phase} (shows : w.Shows phase) (event : Event)
    (foreign : ∀ next, event = .other next → next.IsForeign w.receiver) :
    (w.step event).Shows (phase.next event) := by
  cases event with
  | poll =>
      show w.poll.Shows _
      cases phase with
      | quiet =>
          obtain ⟨going, active, here⟩ := shows
          rw [poll_of_current going here, if_pos active]
          exact ⟨rfl, active, here⟩
      | signalled =>
          obtain ⟨going, cursor, behind, here⟩ := shows
          exact poll_of_behind going here behind
      | abandoned =>
          obtain ⟨going, shut, here⟩ := shows
          rw [poll_of_current going here, if_neg (Bool.eq_false_iff.mp shut)]
          rfl
      | stopped =>
          have stopped : w.wait = .stop := shows
          rw [poll_of_over (by rw [stopped]; exact nofun)]
          exact stopped
      | never =>
          have never : w.wait = .never := shows
          rw [poll_of_over (by rw [never]; exact nofun)]
          exact never
  | other next =>
      have own := foreign next rfl
      have moves := w.coordinator.moves_step next
      have isOpen := moves.isOpen_iff
      cases phase with
      | quiet =>
          obtain ⟨going, active, here⟩ := shows
          obtain ⟨cursor, sent⟩ := moves.of_isForeign here (Nat.le_refl _) own
          by_cases triggers : next = .trigger
          · subst triggers
            rw [if_pos ⟨active, rfl⟩] at sent
            exact ⟨going, w.coordinator.sent, Nat.lt_of_lt_of_eq (Nat.lt_succ_self _) sent.symm,
              cursor⟩
          · rw [if_neg fun sending => triggers sending.2, Nat.add_zero] at sent
            rw [← sent] at cursor
            by_cases closes : next = .close
            · subst closes
              exact ⟨going, Bool.eq_false_iff.mpr fun still => (isOpen.mp still).2 rfl, cursor⟩
            · rw [Phase.next_quiet (fun same => triggers (Event.other.inj same))
                fun same => closes (Event.other.inj same)]
              exact ⟨going, isOpen.mpr ⟨active, closes⟩, cursor⟩
      | signalled =>
          obtain ⟨going, cursor, behind, here⟩ := shows
          obtain ⟨cursorAfter, sent⟩ := moves.of_isForeign here (Nat.le_of_lt behind) own
          refine ⟨going, cursor, ?_, cursorAfter⟩
          show cursor < (w.coordinator.step next).2.sent
          omega
      | abandoned =>
          obtain ⟨going, shut, here⟩ := shows
          obtain ⟨cursor, sent⟩ := moves.of_isForeign here (Nat.le_refl _) own
          have gone : ¬ w.coordinator.isOpen = true := Bool.eq_false_iff.mp shut
          rw [if_neg fun sending => gone sending.1, Nat.add_zero] at sent
          rw [← sent] at cursor
          exact ⟨going, Bool.eq_false_iff.mpr fun still => gone (isOpen.mp still).1, cursor⟩
      | stopped => exact shows
      | never => exact shows

theorem receiver_step (w : Watch) (event : Event) : (w.step event).receiver = w.receiver := by
  cases event with
  | poll =>
      show w.poll.receiver = w.receiver
      unfold poll
      split
      · split <;> rfl
      · rfl
  | other next => rfl

/-- By induction on what happens, with the phase as the invariant. -/
theorem Shows.run {phase : Phase} (shows : w.Shows phase) {events : List Event}
    (foreign : ∀ next, .other next ∈ events → next.IsForeign w.receiver) :
    (w.run events).Shows (phase.run events) := by
  induction events generalizing w phase with
  | nil => exact shows
  | cons event rest ih =>
      refine ih (shows.step event fun next same => foreign next ?_) fun next mem => ?_
      · rw [same]
        exact List.mem_cons_self
      · rw [receiver_step]
        exact foreign next (List.mem_cons_of_mem event mem)

/-- A wait that begins is quiet. -/
theorem shows_start {s : Shutdown} (started : start s = some w) : w.Shows .quiet := by
  obtain ⟨⟨i, t⟩, subscribed, rfl⟩ := Option.map_eq_some_iff.mp started
  have step : s.step .subscribe = (.subscribed i, t) := by simp only [Shutdown.step, subscribed]
  have moves := s.moves_step .subscribe
  rw [step] at moves
  obtain ⟨active, _, here, sent⟩ := moves.of_subscribed
  rw [← sent] at here
  exact ⟨rfl, moves.isOpen_iff.mpr ⟨active, by decide⟩, here⟩

/-- The wait and the phase agree in how it goes on. -/
theorem Shows.wait_eq {phase : Phase} (shows : w.Shows phase) : w.wait = phase.wait := by
  cases phase with
  | stopped => exact shows
  | never => exact shows
  | _ => exact shows.1

end Steps

/-! ## Orders of events -/

/-- The first event happens before the second one does, and a poll after it. -/
def Prior (first second : Event) (events : List Event) : Prop :=
  ∃ before after, events = before ++ first :: after ∧ second ∉ before ∧ .poll ∈ after

section Prior

variable {first second : Event}

theorem not_prior_nil : ¬ Prior first second [] := by
  rintro ⟨before, after, split, _⟩
  simp at split

theorem Prior.polled {events : List Event} (prior : Prior first second events) :
    .poll ∈ events := by
  obtain ⟨before, after, rfl, _, polled⟩ := prior
  exact List.mem_append_right before (List.mem_cons_of_mem first polled)

theorem prior_cons_iff (event : Event) (rest : List Event) :
    Prior first second (event :: rest) ↔
      event = first ∧ .poll ∈ rest ∨ event ≠ second ∧ Prior first second rest := by
  constructor
  · rintro ⟨before, after, split, fresh, polled⟩
    cases before with
    | nil =>
        obtain ⟨rfl, rfl⟩ := List.cons.inj split
        exact .inl ⟨rfl, polled⟩
    | cons head before =>
        obtain ⟨rfl, rfl⟩ := List.cons.inj split
        rw [List.mem_cons, not_or] at fresh
        exact .inr ⟨Ne.symm fresh.1, before, after, rfl, fresh.2, polled⟩
  · rintro (⟨rfl, polled⟩ | ⟨other, before, after, rfl, fresh, polled⟩)
    · exact ⟨[], rest, rfl, List.not_mem_nil, polled⟩
    · refine ⟨event :: before, after, rfl, ?_, polled⟩
      rw [List.mem_cons, not_or]
      exact ⟨Ne.symm other, fresh⟩

end Prior

namespace Phase

theorem run_cons (phase : Phase) (event : Event) (rest : List Event) :
    phase.run (event :: rest) = (phase.next event).run rest := rfl

/-- Nothing happens after the end. -/
theorem run_over {phase : Phase} (ended : phase = .stopped ∨ phase = .never) (events : List Event) :
    phase.run events = phase := by
  induction events with
  | nil => rfl
  | cons event rest ih =>
      rcases ended with rfl | rfl
      · exact ih
      · exact ih

/-- The next poll decides in a phase that only polls can leave. -/
theorem run_of_decided {phase final : Phase} (kept : ∀ step, phase.next (.other step) = phase)
    (decided : phase.next .poll = final) (ended : final = .stopped ∨ final = .never)
    (events : List Event) : phase.run events = if .poll ∈ events then final else phase := by
  induction events with
  | nil => rfl
  | cons event rest ih =>
      rw [run_cons]
      cases event with
      | poll =>
          rw [if_pos List.mem_cons_self, decided]
          exact run_over ended rest
      | other step =>
          have same : .poll ∈ .other step :: rest ↔ .poll ∈ rest :=
            List.mem_cons.trans (or_iff_right nofun)
          rw [kept, ih, if_congr same rfl rfl]

theorem run_signalled (events : List Event) :
    run .signalled events = if .poll ∈ events then .stopped else .signalled :=
  run_of_decided (fun _ => rfl) rfl (.inl rfl) events

theorem run_abandoned (events : List Event) :
    run .abandoned events = if .poll ∈ events then .never else .abandoned :=
  run_of_decided (fun _ => rfl) rfl (.inr rfl) events

/-- By induction on the events: the first trigger or close leaves the quiet phase. -/
theorem run_quiet (events : List Event) :
    (run .quiet events = .stopped ↔ Prior (.other .trigger) (.other .close) events) ∧
      (run .quiet events = .never ↔ Prior (.other .close) (.other .trigger) events) := by
  induction events with
  | nil => exact ⟨iff_of_false nofun not_prior_nil, iff_of_false nofun not_prior_nil⟩
  | cons event rest ih =>
      rw [prior_cons_iff, prior_cons_iff, run_cons]
      by_cases triggers : event = .other .trigger
      · subst triggers
        show (run .signalled rest = _ ↔ _) ∧ (run .signalled rest = _ ↔ _)
        rw [run_signalled]
        by_cases polled : .poll ∈ rest
        · simp [polled]
        · simp [polled, mt Prior.polled polled]
      · by_cases closes : event = .other .close
        · subst closes
          show (run .abandoned rest = _ ↔ _) ∧ (run .abandoned rest = _ ↔ _)
          rw [run_abandoned]
          by_cases polled : .poll ∈ rest
          · simp [polled]
          · simp [polled, mt Prior.polled polled]
        · rw [next_quiet triggers closes]
          simp [triggers, closes, ih]

end Phase

/-! ## Schedules -/

/-- The first events of a schedule that never ends. -/
def soFar (schedule : Nat → Event) (n : Nat) : List Event := (List.range n).map schedule

theorem mem_soFar {schedule : Nat → Event} {n : Nat} {event : Event} :
    event ∈ soFar schedule n ↔ ∃ k < n, schedule k = event := by
  simp [soFar]

theorem soFar_add (schedule : Nat → Event) (n more : Nat) :
    soFar schedule (n + more) = soFar schedule n ++ soFar (fun k => schedule (n + k)) more := by
  simp [soFar, List.range_add]

theorem soFar_succ (schedule : Nat → Event) (n : Nat) :
    soFar schedule (n + 1) = schedule 0 :: soFar (fun k => schedule (k + 1)) n := by
  simp [soFar, List.range_succ_eq_map]

/-- Around the event with number `k`. -/
theorem soFar_around (schedule : Nat → Event) (k more : Nat) :
    soFar schedule (k + (more + 1)) =
      soFar schedule k ++ schedule k :: soFar (fun j => schedule (k + (j + 1))) more := by
  rw [soFar_add, soFar_succ]
  rfl

/-- The order of events in a schedule. -/
theorem exists_prior_iff (first second : Event) (schedule : Nat → Event) :
    (∃ n, Prior first second (soFar schedule n)) ↔
      ∃ k, schedule k = first ∧ (∀ j < k, schedule j ≠ second) ∧ ∃ m > k, schedule m = .poll := by
  constructor
  · rintro ⟨n, before, after, split, fresh, polled⟩
    have length : n = before.length + (after.length + 1) := by
      have sizes := congrArg List.length split
      simpa [soFar] using sizes
    rw [length, soFar_around] at split
    obtain ⟨same, tail⟩ := List.append_inj split (by simp [soFar])
    obtain ⟨here, later⟩ := List.cons.inj tail
    rw [← same, mem_soFar] at fresh
    rw [← later, mem_soFar] at polled
    obtain ⟨j, _, poll⟩ := polled
    refine ⟨before.length, here, fun j early same => fresh ⟨j, early, same⟩, ?_⟩
    exact ⟨before.length + (j + 1), by omega, poll⟩
  · rintro ⟨k, rfl, fresh, m, later, polled⟩
    obtain ⟨more, rfl⟩ := Nat.exists_eq_add_of_lt later
    refine ⟨k + (more + 1 + 1), soFar schedule k, _, soFar_around schedule k (more + 1), ?_, ?_⟩
    · rw [mem_soFar]
      rintro ⟨j, early, same⟩
      exact fresh j early same
    · exact mem_soFar.mpr ⟨more, Nat.lt_succ_self more, polled⟩

/-! ## Waits -/

/-- A run of any length from the beginning, by the phase that it ends in. -/
theorem run_wait_iff {s : Shutdown} {w : Watch} (started : start s = some w) {events : List Event}
    (foreign : ∀ next, .other next ∈ events → next.IsForeign w.receiver) :
    ((w.run events).wait = .stop ↔ Prior (.other .trigger) (.other .close) events) ∧
      ((w.run events).wait = .never ↔ Prior (.other .close) (.other .trigger) events) := by
  have shows := (shows_start started).run foreign
  rw [shows.wait_eq, ← (Phase.run_quiet events).1, ← (Phase.run_quiet events).2]
  cases Phase.run .quiet events <;> simp [Phase.wait]

/-- **Only a signal stops a server.**  Whatever the others do, a wait is completed exactly if a
trigger comes before the coordinator goes and a poll comes after the trigger, however many triggers
there are and whether or not the coordinator goes as well; and it never completes exactly if the
coordinator goes before any trigger and a poll finds that.  So if every trigger is followed by a
poll, as the wake of the receiver sees to, the wait of a schedule without end is completed exactly
if the coordinator sends a signal. -/
theorem stops_iff_triggered {s : Shutdown} {w : Watch} (started : start s = some w) :
    (∀ events, (∀ next, .other next ∈ events → next.IsForeign w.receiver) →
      ((w.run events).wait = .stop ↔ Prior (.other .trigger) (.other .close) events) ∧
      ((w.run events).wait = .never ↔ Prior (.other .close) (.other .trigger) events)) ∧
    ∀ schedule : Nat → Event, (∀ n next, schedule n = .other next → next.IsForeign w.receiver) →
      (∀ n, schedule n = .other .trigger → ∃ m > n, schedule m = .poll) →
      ((∃ n, (w.run (soFar schedule n)).wait = .stop) ↔
        ∃ n, schedule n = .other .trigger ∧ ∀ m < n, schedule m ≠ .other .close) := by
  refine ⟨fun events foreign => run_wait_iff started foreign, fun schedule foreign fair => ?_⟩
  have stops : ∀ n, (w.run (soFar schedule n)).wait = .stop ↔
      Prior (.other .trigger) (.other .close) (soFar schedule n) := by
    intro n
    refine (run_wait_iff started fun next mem => ?_).1
    obtain ⟨k, _, here⟩ := mem_soFar.mp mem
    exact foreign k next here
  rw [exists_congr stops, exists_prior_iff]
  refine exists_congr fun n => and_congr_right fun sent => and_iff_left (fair n sent)

/-- Two triggers before the first poll, and then the coordinator goes: the receiver has missed one
of them and stops all the same.  When the coordinator just goes, it never does. -/
theorem stops_iff_triggered_lagged :
    let s : Shutdown := (Shutdown.start.run [.subscribe, .trigger]).2
    let w : Watch := ⟨⟨1, true, [some 0, some 1]⟩, 1, .again⟩
    let schedule : Nat → Event
      | 0 => .other .trigger
      | 1 => .other .trigger
      | 2 => .other .close
      | _ => .poll
    start s = some w ∧
      (w.run [.other .trigger, .other (.receive 0), .other .trigger, .other .close, .poll]).wait =
        .stop ∧
      (w.run [.poll, .other .close, .other (.unsubscribe 0), .poll]).wait = .never ∧
      ∃ n, (w.run (soFar schedule n)).wait = .stop := by
  intro s w schedule
  have started : start s = some w := by decide
  obtain ⟨finite, endless⟩ := stops_iff_triggered started
  refine ⟨started, ?_, ?_, ?_⟩
  · refine (finite _ fun next mem => ?_).1.mpr ⟨[], _, rfl, by decide, by decide⟩
    simp only [List.mem_cons, Event.other.injEq, reduceCtorEq, List.not_mem_nil, or_false] at mem
    rcases mem with rfl | rfl | rfl | rfl <;> decide
  · refine (finite _ fun next mem => ?_).2.mpr ⟨[.poll], _, rfl, by decide, by decide⟩
    simp only [List.mem_cons, Event.other.injEq, reduceCtorEq, List.not_mem_nil, or_false,
      false_or] at mem
    rcases mem with rfl | rfl <;> decide
  · have foreign : ∀ n next, schedule n = .other next → next.IsForeign w.receiver := by
      intro n next here
      match n with
      | 0 | 1 | 2 =>
          obtain rfl := Event.other.inj here
          decide
      | n + 3 => exact nomatch here
    have fair : ∀ n, schedule n = .other .trigger → ∃ m > n, schedule m = .poll :=
      fun n _ => ⟨n + 3, by omega, rfl⟩
    exact (endless schedule foreign fair).mpr ⟨0, rfl, nofun⟩

end Watch

end ClientOrigin
