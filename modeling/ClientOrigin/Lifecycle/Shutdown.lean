import ClientOrigin.Log.Event

/-!
# The shutdown signal

A coordinator sends a signal to everyone who has subscribed.  The channel holds one signal: a
subscriber that has missed several is told how many it lost before it gets the last one.  After
the coordinator is gone, a subscriber still gets the signal that waits for it.
-/

namespace ClientOrigin

/-- A coordinator and its subscribers.  A subscriber is known by its position; its cursor is the
number of the next signal it has not seen, and a dropped subscriber has none. -/
structure Shutdown where
  sent : Nat
  isOpen : Bool
  cursors : List (Option Nat)
  deriving DecidableEq, Repr

namespace Shutdown

/-- What a subscriber finds when it looks for a signal. -/
inductive Received where
  | signal
  | lagged (missed : Nat)
  | empty
  | closed
  deriving DecidableEq, Repr

/-- A coordinator without subscribers. -/
def start : Shutdown := ⟨0, true, []⟩

/-- The cursor of a subscriber that is neither unknown nor dropped. -/
def cursor? (s : Shutdown) (i : Nat) : Option Nat := (s.cursors[i]?).join

/-- How many subscribers there are, without the dropped ones. -/
def live (s : Shutdown) : Nat := s.cursors.countP Option.isSome

/-- The subscription of one more subscriber, who sees no signal sent before; its position is
returned. -/
def subscribe (s : Shutdown) : Option (Nat × Shutdown) :=
  if s.isOpen then
    some (s.cursors.length, { s with cursors := s.cursors ++ [some s.sent] })
  else none

/-- The event of a signal. -/
def triggered (receivers : Nat) : LogEvent :=
  ⟨.event, .debug, "client_ip::lifecycle::shutdown", "Shutdown triggered",
    [("receivers", .number receivers)]⟩

/-- A signal to all subscribers; without any, nothing is sent. -/
def trigger (s : Shutdown) : Option (List LogEvent × Shutdown) :=
  if s.isOpen then
    some ([triggered s.live], if s.live = 0 then s else { s with sent := s.sent + 1 })
  else none

/-- What a subscriber at the given cursor finds, and its cursor afterwards. -/
def look (s : Shutdown) (cursor : Nat) : Received × Nat :=
  if s.sent ≤ cursor then (if s.isOpen then .empty else .closed, cursor)
  else if cursor + 1 = s.sent then (.signal, cursor + 1)
  else (.lagged (s.sent - 1 - cursor), s.sent - 1)

/-- A subscriber looks for a signal. -/
def receive (s : Shutdown) (i : Nat) : Option (Received × Shutdown) :=
  (s.cursor? i).map fun cursor =>
    let (received, cursor) := s.look cursor
    (received, { s with cursors := s.cursors.set i (some cursor) })

/-- A subscriber leaves; none if it is unknown or has left before. -/
def unsubscribe (s : Shutdown) (i : Nat) : Option Shutdown :=
  (s.cursor? i).map fun _ => { s with cursors := s.cursors.set i none }

/-- The coordinator goes; none if it has gone before. -/
def close (s : Shutdown) : Option Shutdown :=
  if s.isOpen then some { s with isOpen := false } else none

/-- How a server that waits for the signal goes on after it has looked. -/
inductive Wait where
  | stop
  | again
  | never
  deriving DecidableEq, Repr

/-- A signal stops the server, also one among several that it missed; a closed channel leaves it
running for good. -/
def Received.wait : Received → Wait
  | .signal => .stop
  | .lagged _ => .stop
  | .empty => .again
  | .closed => .never

/-- What happens to a coordinator and its subscribers. -/
inductive Step where
  | subscribe
  | trigger
  | receive (i : Nat)
  | unsubscribe (i : Nat)
  | close
  deriving DecidableEq, Repr

/-- The answer to a step. -/
inductive Answer where
  | subscribed (i : Nat)
  | logged (events : List LogEvent)
  | received (what : Received)
  | unknown
  | done (changed : Bool)
  | gone
  deriving DecidableEq, Repr

/-- One step: its answer, and what follows. -/
def step (s : Shutdown) : Step → Answer × Shutdown
  | .subscribe =>
    match s.subscribe with
    | some (i, s) => (.subscribed i, s)
    | none => (.gone, s)
  | .trigger =>
    match s.trigger with
    | some (events, s) => (.logged events, s)
    | none => (.gone, s)
  | .receive i =>
    match s.receive i with
    | some (what, s) => (.received what, s)
    | none => (.unknown, s)
  | .unsubscribe i =>
    match s.unsubscribe i with
    | some s => (.done true, s)
    | none => (.done false, s)
  | .close =>
    match s.close with
    | some s => (.done true, s)
    | none => (.done false, s)

/-- The steps one after another: their answers, and what follows. -/
def run (s : Shutdown) : List Step → List Answer × Shutdown
  | [] => ([], s)
  | next :: rest =>
    let (answer, s) := s.step next
    let (answers, s) := s.run rest
    (answer :: answers, s)

end Shutdown

end ClientOrigin
