import ClientOrigin.Lifecycle.Shutdown
import Mathlib.Data.List.Induction

/-!
# No signal is lost or told twice

The channel holds one signal only, and yet every subscriber accounts for all signals that were
sent since it subscribed: those that it is told of, and those that it is told it has missed.

* **history** — what has happened to a coordinator is a list of steps with their answers
  (`history`); whoever has subscribed and not left is `present`;
* **state** — the history tells who has a cursor and whether the channel is open (`Tracks`);
* **cursor** — a step moves the cursor of a subscriber by what the subscriber is told, and the
  number of signals by one for each trigger (`Moves.follows`, `run_follows`);
* `history_signals` puts them together for every history.
-/

namespace ClientOrigin.Shutdown

/-! ## Histories -/

/-- The steps with their answers. -/
def history (s : Shutdown) (steps : List Step) : List (Step × Answer) := steps.zip (s.run steps).1

/-- How many signals an answer tells a subscriber of. -/
def Received.count : Received → Nat
  | .signal => 1
  | .lagged missed => missed
  | .empty => 0
  | .closed => 0

/-- How many signals a subscriber is told of in an entry of a history. -/
def told (i : Nat) : Step × Answer → Nat
  | (.receive j, .received what) => if j = i then what.count else 0
  | _ => 0

/-- How many signals a subscriber is told of in a history. -/
def reported (i : Nat) : List (Step × Answer) → Nat
  | [] => 0
  | entry :: rest => told i entry + reported i rest

/-- The entry is a signal to all subscribers. -/
def isTrigger : Step × Answer → Bool
  | (.trigger, .logged _) => true
  | _ => false

/-- How many signals there are in a history. -/
def triggers (history : List (Step × Answer)) : Nat := history.countP isTrigger

/-- The subscriber that the entry brings, if any. -/
def subscribed? : Step × Answer → Option Nat
  | (.subscribe, .subscribed i) => some i
  | _ => none

/-- The subscribers in a history that have not left in it. -/
def present (history : List (Step × Answer)) : List Nat :=
  (history.filterMap subscribed?).filter fun i => (.unsubscribe i, .done true) ∉ history

theorem reported_append (i : Nat) (earlier later : List (Step × Answer)) :
    reported i (earlier ++ later) = reported i earlier + reported i later := by
  induction earlier with
  | nil => exact (Nat.zero_add _).symm
  | cons entry rest ih =>
      rw [List.cons_append, reported, reported, ih, Nat.add_assoc]

theorem history_cons (s : Shutdown) (next : Step) (rest : List Step) :
    s.history (next :: rest) = (next, (s.step next).1) :: (s.step next).2.history rest := rfl

theorem run_cons (s : Shutdown) (next : Step) (rest : List Step) :
    s.run (next :: rest) =
      ((s.step next).1 :: ((s.step next).2.run rest).1, ((s.step next).2.run rest).2) := rfl

/-- An entry of a history is a step with its answer in the state that the steps before it have
left. -/
theorem history_split {s : Shutdown} {steps : List Step} {earlier later : List (Step × Answer)}
    {next : Step} {answer : Answer} (split : s.history steps = earlier ++ (next, answer) :: later) :
    ∃ before after, steps = before ++ next :: after ∧ earlier = s.history before ∧
      answer = ((s.run before).2.step next).1 ∧
      later = ((s.run before).2.step next).2.history after := by
  induction earlier generalizing s steps with
  | nil =>
      cases steps with
      | nil => cases split
      | cons first rest =>
          cases split
          exact ⟨[], rest, rfl, rfl, rfl, rfl⟩
  | cons entry earlier ih =>
      cases steps with
      | nil => cases split
      | cons first rest =>
          rw [history_cons, List.cons_append] at split
          obtain ⟨rfl, tail⟩ := List.cons.inj split
          obtain ⟨before, after, rfl, rfl, answered, further⟩ := ih tail
          exact ⟨first :: before, after, rfl, rfl, answered, further⟩

/-! ## One step -/

/-- All that a step can do. -/
inductive Moves (s : Shutdown) : Step → Answer → Shutdown → Prop
  | subscribed (active : s.isOpen = true) :
      Moves s .subscribe (.subscribed s.cursors.length)
        { s with cursors := s.cursors ++ [some s.sent] }
  | triggered (active : s.isOpen = true) :
      Moves s .trigger (.logged [triggered s.live])
        { s with sent := if s.live = 0 then s.sent else s.sent + 1 }
  | received {i cursor : Nat} (here : s.cursor? i = some cursor) :
      Moves s (.receive i) (.received (s.look cursor).1)
        { s with cursors := s.cursors.set i (some (s.look cursor).2) }
  | unsubscribed {i cursor : Nat} (here : s.cursor? i = some cursor) :
      Moves s (.unsubscribe i) (.done true) { s with cursors := s.cursors.set i none }
  | closed (active : s.isOpen = true) : Moves s .close (.done true) { s with isOpen := false }
  | late {next : Step} (shut : s.isOpen = false) (sending : next = .subscribe ∨ next = .trigger) :
      Moves s next .gone s
  | unknown {i : Nat} (absent : s.cursor? i = none) : Moves s (.receive i) .unknown s
  | missing {i : Nat} (absent : s.cursor? i = none) : Moves s (.unsubscribe i) (.done false) s
  | again (shut : s.isOpen = false) : Moves s .close (.done false) s

theorem moves_step (s : Shutdown) (next : Step) :
    s.Moves next (s.step next).1 (s.step next).2 := by
  cases next with
  | subscribe =>
      by_cases active : s.isOpen = true
      · have moved : s.step .subscribe = (.subscribed s.cursors.length,
            { s with cursors := s.cursors ++ [some s.sent] }) := by
          simp only [step, subscribe, if_pos active]
        rw [moved]
        exact .subscribed active
      · have stayed : s.step .subscribe = (.gone, s) := by
          simp only [step, subscribe, if_neg active]
        rw [stayed]
        exact .late (Bool.eq_false_iff.mpr active) (.inl rfl)
  | trigger =>
      by_cases active : s.isOpen = true
      · have moved : s.step .trigger = (.logged [triggered s.live],
            { s with sent := if s.live = 0 then s.sent else s.sent + 1 }) := by
          simp only [step, trigger, if_pos active]
          split <;> rfl
        rw [moved]
        exact .triggered active
      · have stayed : s.step .trigger = (.gone, s) := by
          simp only [step, trigger, if_neg active]
        rw [stayed]
        exact .late (Bool.eq_false_iff.mpr active) (.inr rfl)
  | receive i =>
      cases here : s.cursor? i with
      | none =>
          have stayed : s.step (.receive i) = (.unknown, s) := by
            simp only [step, receive, here, Option.map_none]
          rw [stayed]
          exact .unknown here
      | some cursor =>
          have moved : s.step (.receive i) = (.received (s.look cursor).1,
              { s with cursors := s.cursors.set i (some (s.look cursor).2) }) := by
            simp only [step, receive, here, Option.map_some]
          rw [moved]
          exact .received here
  | unsubscribe i =>
      cases here : s.cursor? i with
      | none =>
          have stayed : s.step (.unsubscribe i) = (.done false, s) := by
            simp only [step, unsubscribe, here, Option.map_none]
          rw [stayed]
          exact .missing here
      | some cursor =>
          have moved : s.step (.unsubscribe i) =
              (.done true, { s with cursors := s.cursors.set i none }) := by
            simp only [step, unsubscribe, here, Option.map_some]
          rw [moved]
          exact .unsubscribed here
  | close =>
      by_cases active : s.isOpen = true
      · have moved : s.step .close = (.done true, { s with isOpen := false }) := by
          simp only [step, close, if_pos active]
        rw [moved]
        exact .closed active
      · have stayed : s.step .close = (.done false, s) := by
          simp only [step, close, if_neg active]
        rw [stayed]
        exact .again (Bool.eq_false_iff.mpr active)

/-! ## Cursors -/

section Cursors

variable {s : Shutdown} {i j cursor : Nat}

theorem lt_of_cursor (here : s.cursor? i = some cursor) : i < s.cursors.length := by
  by_contra beyond
  unfold cursor? at here
  rw [List.getElem?_eq_none (Nat.le_of_not_lt beyond)] at here
  cases here

theorem cursor_append (inside : i < s.cursors.length) (new : Option Nat) :
    cursor? { s with cursors := s.cursors ++ [new] } i = s.cursor? i := by
  unfold cursor?
  rw [List.getElem?_append_left inside]

theorem cursor_append_self (new : Option Nat) :
    cursor? { s with cursors := s.cursors ++ [new] } s.cursors.length = new := by
  unfold cursor?
  rw [List.getElem?_concat_length]
  rfl

theorem cursor_set (inside : i < s.cursors.length) (new : Option Nat) (j : Nat) :
    cursor? { s with cursors := s.cursors.set i new } j = if i = j then new else s.cursor? j := by
  unfold cursor?
  by_cases own : i = j
  · subst own
    rw [if_pos rfl, List.getElem?_set_self inside]
    rfl
  · rw [if_neg own, List.getElem?_set_ne own]

/-- The live subscribers are those that have a cursor. -/
theorem live_eq (s : Shutdown) :
    s.live = (List.range s.cursors.length).countP fun i => (s.cursor? i).isSome := by
  unfold live cursor?
  induction s.cursors using List.reverseRecOn with
  | nil => rfl
  | append_singleton cursors last ih =>
      have front : (List.range cursors.length).countP
            (fun i => ((cursors ++ [last])[i]?).join.isSome) =
          (List.range cursors.length).countP fun i => (cursors[i]?).join.isSome := by
        refine List.countP_congr fun i mem => ?_
        rw [List.getElem?_append_left (List.mem_range.mp mem)]
      rw [List.countP_append, ih, List.length_append, List.length_singleton, List.range_succ,
        List.countP_append, front, List.countP_singleton, List.countP_singleton,
        List.getElem?_concat_length, Option.join_some]

theorem live_pos (here : s.cursor? i = some cursor) : 0 < s.live := by
  rw [live_eq]
  refine List.countP_pos_iff.mpr ⟨i, List.mem_range.mpr (lt_of_cursor here), ?_⟩
  rw [here]
  rfl

/-- Looking for a signal moves a cursor by the number of signals that are told of, never past the
last signal; only those who know all signals are told nothing. -/
theorem look_spec (s : Shutdown) (behind : cursor ≤ s.sent) :
    (s.look cursor).2 = cursor + (s.look cursor).1.count ∧ (s.look cursor).2 ≤ s.sent ∧
      (cursor < s.sent → 0 < (s.look cursor).1.count) ∧
      ((s.look cursor).1 = .empty ∨ (s.look cursor).1 = .closed ↔ cursor = s.sent) ∧
      ((s.look cursor).1 = .empty → s.isOpen = true) ∧
      ((s.look cursor).1 = .closed → s.isOpen = false) := by
  unfold look
  by_cases all : s.sent ≤ cursor
  · rw [if_pos all]
    have same : cursor = s.sent := Nat.le_antisymm behind all
    cases s.isOpen with
    | true => simp [Received.count, same]
    | false => simp [Received.count, same]
  · rw [if_neg all]
    by_cases one : cursor + 1 = s.sent
    · rw [if_pos one]
      refine ⟨rfl, Nat.le_of_eq one, fun _ => Nat.one_pos, ?_, nofun, nofun⟩
      simp
      omega
    · rw [if_neg one]
      refine ⟨?_, Nat.sub_le _ _, fun _ => ?_, ?_, nofun, nofun⟩
      · show s.sent - 1 = cursor + (s.sent - 1 - cursor)
        omega
      · show 0 < s.sent - 1 - cursor
        omega
      · simp
        omega

/-- A step moves the cursor of a subscriber that stays by the number of signals that the
subscriber is told of, and there is one signal more if the step is a trigger. -/
theorem Moves.follows {next : Step} {answer : Answer} {t : Shutdown}
    (moves : s.Moves next answer t) (here : s.cursor? i = some cursor) (behind : cursor ≤ s.sent)
    (stays : (next, answer) ≠ (.unsubscribe i, .done true)) :
    t.cursor? i = some (cursor + told i (next, answer)) ∧
      t.sent = s.sent + (if isTrigger (next, answer) then 1 else 0) ∧
      cursor + told i (next, answer) ≤ t.sent := by
  have inside := lt_of_cursor here
  cases moves with
  | subscribed active => exact ⟨(cursor_append inside _).trans here, rfl, behind⟩
  | triggered active =>
      -- the subscriber itself is there, so the signal is sent
      have sent : (if s.live = 0 then s.sent else s.sent + 1) = s.sent + 1 :=
        if_neg (Nat.ne_of_gt (live_pos here))
      dsimp only
      rw [sent]
      exact ⟨here, rfl, Nat.le_succ_of_le behind⟩
  | @received j other found =>
      by_cases own : j = i
      · subst own
        obtain rfl := Option.some.inj (here.symm.trans found)
        obtain ⟨moved, within, _⟩ := look_spec s behind
        unfold told
        dsimp only
        rw [if_pos rfl, ← moved, cursor_set inside, if_pos rfl]
        exact ⟨rfl, rfl, within⟩
      · unfold told
        dsimp only
        rw [if_neg own, cursor_set (lt_of_cursor found), if_neg own]
        exact ⟨here, rfl, behind⟩
  | @unsubscribed j other found =>
      have foreign : j ≠ i := fun own => stays (by rw [own])
      rw [cursor_set (lt_of_cursor found), if_neg foreign]
      exact ⟨here, rfl, behind⟩
  | closed active => exact ⟨here, rfl, behind⟩
  | late shut sending =>
      rcases sending with rfl | rfl
      · exact ⟨here, rfl, behind⟩
      · exact ⟨here, rfl, behind⟩
  | unknown absent => exact ⟨here, rfl, behind⟩
  | missing absent => exact ⟨here, rfl, behind⟩
  | again shut => exact ⟨here, rfl, behind⟩

/-- By induction on the steps: the cursor of a subscriber that stays and the number of signals
move as the history says. -/
theorem run_follows (steps : List Step) (here : s.cursor? i = some cursor)
    (behind : cursor ≤ s.sent) (stays : (.unsubscribe i, .done true) ∉ s.history steps) :
    (s.run steps).2.cursor? i = some (cursor + reported i (s.history steps)) ∧
      (s.run steps).2.sent = s.sent + triggers (s.history steps) ∧
      cursor + reported i (s.history steps) ≤ (s.run steps).2.sent := by
  induction steps generalizing s cursor with
  | nil => exact ⟨here, rfl, behind⟩
  | cons next rest ih =>
      rw [history_cons, List.mem_cons, not_or] at stays
      obtain ⟨first, further⟩ := stays
      obtain ⟨moved, sent, within⟩ := (s.moves_step next).follows here behind (Ne.symm first)
      obtain ⟨movedOn, sentOn, withinOn⟩ := ih moved within further
      have triggered : triggers ((next, (s.step next).1) :: (s.step next).2.history rest) =
          triggers ((s.step next).2.history rest) +
            if isTrigger (next, (s.step next).1) then 1 else 0 := List.countP_cons
      rw [run_cons, history_cons, reported, triggered, ← Nat.add_assoc]
      refine ⟨movedOn, ?_, withinOn⟩
      rw [sentOn, sent]
      omega

end Cursors

/-! ## What the history tells -/

/-- The history tells who has subscribed, who has left, and whether the channel is open. -/
structure Tracks (history : List (Step × Answer)) (s : Shutdown) : Prop where
  subscribed : history.filterMap subscribed? = List.range s.cursors.length
  left : ∀ i, (.unsubscribe i, .done true) ∈ history ↔
    i < s.cursors.length ∧ s.cursor? i = none
  closed : .close ∈ history.map Prod.fst ↔ s.isOpen = false
  silent : ∀ i, s.cursors.length ≤ i → reported i history = 0

namespace Tracks

variable {history : List (Step × Answer)} {s : Shutdown} (tracks : Tracks history s)

include tracks

theorem live : s.live = (present history).length := by
  unfold present
  rw [live_eq, tracks.subscribed, ← List.countP_eq_length_filter]
  refine List.countP_congr fun i mem => ?_
  have inside := List.mem_range.mp mem
  simp [tracks.left, inside, Option.isSome_iff_ne_none]

/-- What one more entry has to say about the state after it. -/
theorem snoc {entry : Step × Answer} {t : Shutdown}
    (subscribed : List.range t.cursors.length =
      List.range s.cursors.length ++ (subscribed? entry).toList)
    (left : ∀ i, i < t.cursors.length ∧ t.cursor? i = none ↔
      (i < s.cursors.length ∧ s.cursor? i = none) ∨ (.unsubscribe i, .done true) = entry)
    (closed : t.isOpen = false ↔ s.isOpen = false ∨ .close = entry.1)
    (silent : ∀ i, t.cursors.length ≤ i → s.cursors.length ≤ i ∧ told i entry = 0) :
    Tracks (history ++ [entry]) t := by
  constructor
  · have last : [entry].filterMap subscribed? = (subscribed? entry).toList := by
      cases found : subscribed? entry <;> simp [found]
    rw [List.filterMap_append, tracks.subscribed, subscribed, last]
  · intro i
    rw [List.mem_append, List.mem_singleton, tracks.left, left]
  · rw [List.map_append, List.mem_append, List.map_singleton, List.mem_singleton, tracks.closed,
      closed]
  · intro i beyond
    obtain ⟨before, here⟩ := silent i beyond
    rw [reported_append, tracks.silent i before, reported, here]
    rfl

/-- A step that changes nothing has no more to say. -/
theorem stays {entry : Step × Answer} (subscribed : subscribed? entry = none)
    (left : ∀ i, (.unsubscribe i, .done true) ≠ entry)
    (closed : .close = entry.1 → s.isOpen = false) (silent : ∀ i, told i entry = 0) :
    Tracks (history ++ [entry]) s := by
  refine tracks.snoc ?_ (fun i => ?_) ?_ (fun i beyond => ⟨beyond, silent i⟩)
  · rw [subscribed]
    exact (List.append_nil _).symm
  · exact (or_iff_left (left i)).symm
  · exact (or_iff_left_of_imp closed).symm

/-- By cases on what the step does: only a subscriber that comes, one that leaves and a coordinator
that goes are news. -/
theorem step {next : Step} {answer : Answer} {t : Shutdown} (moves : s.Moves next answer t) :
    Tracks (history ++ [(next, answer)]) t := by
  cases moves with
  | subscribed active =>
      have grown : (s.cursors ++ [some s.sent]).length = s.cursors.length + 1 :=
        List.length_append
      refine tracks.snoc ?_ (fun i => ?_) (by simp) (fun i beyond => ?_)
      · rw [grown]
        exact List.range_succ
      · rw [grown]
        -- nobody can have left whose position has not been given out
        rcases Nat.lt_trichotomy i s.cursors.length with inside | rfl | beyond
        · rw [cursor_append inside]
          simp [inside, Nat.lt_succ_of_lt inside]
        · rw [cursor_append_self]
          simp
        · simp
          omega
      · rw [grown] at beyond
        exact ⟨Nat.le_of_succ_le beyond, rfl⟩
  | triggered active =>
      exact tracks.snoc (by simp [subscribed?]) (by simp [cursor?]) (by simp)
        fun i beyond => ⟨beyond, rfl⟩
  | @received j cursor here =>
      have inside := lt_of_cursor here
      have same : (s.cursors.set j (some (s.look cursor).2)).length = s.cursors.length :=
        List.length_set
      refine tracks.snoc ?_ (fun i => ?_) (by simp) (fun i beyond => ?_)
      · rw [same]
        exact (List.append_nil _).symm
      · rw [same, cursor_set inside]
        by_cases own : j = i
        · subst own
          simp [here]
        · simp [own]
      · rw [same] at beyond
        exact ⟨beyond, if_neg (by omega)⟩
  | @unsubscribed j cursor here =>
      have inside := lt_of_cursor here
      have same : (s.cursors.set j none).length = s.cursors.length := List.length_set
      refine tracks.snoc ?_ (fun i => ?_) (by simp) (fun i beyond => ?_)
      · rw [same]
        exact (List.append_nil _).symm
      · rw [same, cursor_set inside]
        by_cases own : j = i
        · subst own
          simp [inside]
        · simp [own, Ne.symm own]
      · rw [same] at beyond
        exact ⟨beyond, rfl⟩
  | closed active =>
      exact tracks.snoc (by simp [subscribed?]) (by simp [cursor?]) (by simp)
        fun i beyond => ⟨beyond, rfl⟩
  | late shut sending =>
      rcases sending with rfl | rfl
      · exact tracks.stays rfl nofun nofun fun _ => rfl
      · exact tracks.stays rfl nofun nofun fun _ => rfl
  | unknown absent => exact tracks.stays rfl nofun nofun fun _ => rfl
  | missing absent => exact tracks.stays rfl (by simp) nofun fun _ => rfl
  | again shut => exact tracks.stays rfl nofun (fun _ => shut) fun _ => rfl

theorem run (steps : List Step) : Tracks (history ++ s.history steps) (s.run steps).2 := by
  induction steps generalizing history s with
  | nil =>
      rw [show s.history [] = [] from rfl, List.append_nil]
      exact tracks
  | cons next rest ih =>
      rw [history_cons, List.append_cons, run_cons]
      exact ih (tracks.step (s.moves_step next))

end Tracks

/-- The history from the start tells all of this. -/
theorem tracks_run (steps : List Step) : Tracks (start.history steps) (start.run steps).2 := by
  have none : Tracks [] start :=
    ⟨rfl, fun i => by simp [start], by simp [start], fun _ _ => rfl⟩
  exact none.run steps

/-! ## All histories -/

/-- A new subscriber has seen all signals that were sent before. -/
theorem Moves.of_subscribed {s t : Shutdown} {i : Nat}
    (moves : s.Moves .subscribe (.subscribed i) t) :
    s.isOpen = true ∧ i = s.cursors.length ∧ t.cursor? i = some s.sent ∧ t.sent = s.sent := by
  cases moves with
  | subscribed active => exact ⟨active, rfl, cursor_append_self _, rfl⟩

section Subscription

variable {s t : Shutdown} {i : Nat} (moves : s.Moves .subscribe (.subscribed i) t)
variable {since : List Step} (stays : (.unsubscribe i, .done true) ∉ t.history since)

include moves stays

/-- The signals since its subscription that a subscriber has not been told of are those that its
cursor has not reached. -/
theorem cursor_since :
    ∃ cursor, (t.run since).2.cursor? i = some cursor ∧ cursor ≤ (t.run since).2.sent ∧
      reported i (t.history since) ≤ triggers (t.history since) ∧
      (cursor = (t.run since).2.sent ↔
        reported i (t.history since) = triggers (t.history since)) := by
  obtain ⟨_, _, here, sent⟩ := moves.of_subscribed
  obtain ⟨there, sentThere, behind⟩ := run_follows since here (Nat.le_of_eq sent.symm) stays
  rw [sent] at sentThere
  exact ⟨_, there, behind, by omega, by omega⟩

/-- What a subscriber finds when it looks. -/
theorem received_since {answer : Answer} {u : Shutdown}
    (looks : (t.run since).2.Moves (.receive i) answer u) :
    ∃ what, answer = .received what ∧
      (reported i (t.history since) < triggers (t.history since) → 0 < what.count) ∧
      (what = .empty ∨ what = .closed ↔
        reported i (t.history since) = triggers (t.history since)) ∧
      (what = .empty → (t.run since).2.isOpen = true) ∧
      (what = .closed → (t.run since).2.isOpen = false) := by
  obtain ⟨cursor, there, behind, _, all⟩ := cursor_since moves stays
  obtain ⟨_, _, something, nothing, waiting, shut⟩ := look_spec (t.run since).2 behind
  cases looks with
  | received found =>
      obtain rfl := Option.some.inj (there.symm.trans found)
      refine ⟨_, rfl, fun missing => something ?_, nothing.trans all, waiting, shut⟩
      exact Nat.lt_of_le_of_ne behind fun known => Nat.ne_of_lt missing (all.mp known)
  | unknown absent =>
      rw [absent] at there
      cases there
  | late _ sending => rcases sending with impossible | impossible <;> cases impossible

end Subscription

/-- Nobody subscribes to a coordinator that has gone, so the channel is closed if the coordinator
goes after a subscription. -/
theorem closed_since {earlier : List (Step × Answer)} {s t : Shutdown} {i : Nat}
    (tracks : Tracks earlier s) (moves : s.Moves .subscribe (.subscribed i) t)
    (since : List Step) :
    .close ∉ earlier.map Prod.fst ∧
      (.close ∈ (t.history since).map Prod.fst ↔ (t.run since).2.isOpen = false) := by
  have before : .close ∉ earlier.map Prod.fst := by
    rw [tracks.closed, moves.of_subscribed.1]
    exact Bool.noConfusion
  have closed := ((tracks.step moves).run since).closed
  rw [List.map_append, List.map_append, List.map_singleton, List.append_assoc, List.mem_append,
    or_iff_right before, List.singleton_append, List.mem_cons, or_iff_right Step.noConfusion]
    at closed
  exact ⟨before, closed⟩

/-- **Signals.**  In every history a subscriber is told of no signal before it has subscribed, and
as long as it stays it is told of no more signals than there have been since.  When it looks it is
told of some more, or it finds nothing and has been told of all of them, whether the coordinator is
still there or not; the channel is empty before the coordinator goes and closed after that.  Every
signal is logged with the number of those who have subscribed and not left. -/
theorem history_signals (steps : List Step) :
    (∀ i earlier since,
      start.history steps = earlier ++ (.subscribe, .subscribed i) :: since →
      (.unsubscribe i, .done true) ∉ since →
      reported i earlier = 0 ∧ reported i since ≤ triggers since) ∧
    (∀ i earlier since later answer,
      start.history steps =
        earlier ++ (.subscribe, .subscribed i) :: (since ++ (.receive i, answer) :: later) →
      (.unsubscribe i, .done true) ∉ since →
      ∃ what, answer = .received what ∧
        (reported i since < triggers since → 0 < what.count) ∧
        (what = .empty ∨ what = .closed ↔ reported i since = triggers since) ∧
        (what = .closed → .close ∈ since.map Prod.fst) ∧
        (what = .empty → .close ∉ (earlier ++ since).map Prod.fst)) ∧
    ∀ earlier later answer,
      start.history steps = earlier ++ (.trigger, answer) :: later →
      .close ∈ earlier.map Prod.fst ∧ answer = .gone ∨
        .close ∉ earlier.map Prod.fst ∧ ∃ event, answer = .logged [event] ∧
          event.kind = .event ∧ event.level = .debug ∧ event.text = "Shutdown triggered" ∧
          event.fields.lookup "receivers" = some (.number (present earlier).length) := by
  refine ⟨?_, ?_, ?_⟩
  · intro i earlier since split stays
    obtain ⟨before, after, rfl, rfl, answered, rfl⟩ := history_split split
    have moves := (start.run before).2.moves_step .subscribe
    rw [← answered] at moves
    obtain ⟨_, new, _⟩ := moves.of_subscribed
    obtain ⟨_, _, _, told, _⟩ := cursor_since moves stays
    exact ⟨(tracks_run before).silent i (Nat.le_of_eq new.symm), told⟩
  · intro i earlier since later answer split stays
    obtain ⟨before, after, rfl, rfl, answered, further⟩ := history_split split
    have moves := (start.run before).2.moves_step .subscribe
    rw [← answered] at moves
    obtain ⟨meanwhile, rest, rfl, rfl, found, _⟩ := history_split further.symm
    have looks := (((start.run before).2.step .subscribe).2.run meanwhile).2.moves_step (.receive i)
    rw [← found] at looks
    obtain ⟨what, rfl, something, nothing, waiting, shut⟩ := received_since moves stays looks
    obtain ⟨notBefore, closed⟩ := closed_since (tracks_run before) moves meanwhile
    refine ⟨what, rfl, something, nothing, fun none => closed.mpr (shut none), fun none => ?_⟩
    rw [List.map_append, List.mem_append, or_iff_right notBefore, closed, waiting none]
    exact Bool.noConfusion
  · intro earlier later answer split
    obtain ⟨before, after, rfl, rfl, answered, _⟩ := history_split split
    have tracks := tracks_run before
    have moves := (start.run before).2.moves_step .trigger
    rw [← answered] at moves
    rw [tracks.closed, ← tracks.live]
    generalize ((start.run before).2.step .trigger).2 = t at moves
    cases moves with
    | triggered active =>
        exact .inr ⟨by rw [active]; exact Bool.noConfusion, _, rfl, rfl, rfl, rfl, rfl⟩
    | late shut _ => exact .inl ⟨shut, rfl⟩

/-- A signal before the subscription, two after it, and then the coordinator goes. -/
theorem history_signals_drained :
    let since := [(.trigger, .logged [triggered 1]), (.trigger, .logged [triggered 1]),
      (.close, .done true), (.receive 0, .received (.lagged 1)), (.receive 0, .received .signal)]
    start.history [.trigger, .subscribe, .trigger, .trigger, .close, .receive 0, .receive 0,
        .receive 0] =
      [(.trigger, .logged [triggered 0])] ++ (.subscribe, .subscribed 0) ::
        (since ++ (.receive 0, .received .closed) :: []) ∧
      (.unsubscribe 0, .done true) ∉ since ∧
      reported 0 since = triggers since ∧ .close ∈ since.map Prod.fst := by
  intro since
  have happened : start.history [.trigger, .subscribe, .trigger, .trigger, .close, .receive 0,
        .receive 0, .receive 0] =
      [(.trigger, .logged [triggered 0])] ++ (.subscribe, .subscribed 0) ::
        (since ++ (.receive 0, .received .closed) :: []) := by decide
  have stays : (.unsubscribe 0, .done true) ∉ since := by decide
  obtain ⟨what, found, _, nothing, shut, _⟩ :=
    (history_signals _).2.1 0 _ since _ _ happened stays
  obtain rfl := Answer.received.inj found
  exact ⟨happened, stays, nothing.mp (.inr rfl), shut rfl⟩

end ClientOrigin.Shutdown
