import ClientOrigin.Lifecycle.Shutdown

/-!
# Waiting for the signal

A server that runs waits for the signal with a subscription of its own.  Each time the wait is
polled it looks for a signal, unless it is over.  A signal completes it and ends the subscription;
a closed channel leaves it waiting for good, since nobody can send a signal any more.
-/

namespace ClientOrigin

/-- A wait: the coordinator, the position of the server's own subscriber, and how it goes on. -/
structure Watch where
  coordinator : Shutdown
  receiver : Nat
  wait : Shutdown.Wait
  deriving DecidableEq, Repr

namespace Watch

/-- What happens while a server waits: it is polled, or the coordinator and the other subscribers
do something. -/
inductive Event where
  | poll
  | other (step : Shutdown.Step)
  deriving DecidableEq, Repr

/-- The wait of a server that subscribes. -/
def start (s : Shutdown) : Option Watch :=
  s.subscribe.map fun subscribed => ⟨subscribed.2, subscribed.1, .again⟩

/-- The wait when it is polled. -/
def poll (w : Watch) : Watch :=
  match w.wait, w.coordinator.receive w.receiver with
  | .again, some (what, coordinator) =>
    match what.wait with
    | .stop => ⟨(coordinator.unsubscribe w.receiver).getD coordinator, w.receiver, .stop⟩
    | wait => ⟨coordinator, w.receiver, wait⟩
  | _, _ => w

/-- The wait after something has happened. -/
def step (w : Watch) : Event → Watch
  | .poll => w.poll
  | .other next => { w with coordinator := (w.coordinator.step next).2 }

/-- The wait after one thing after another. -/
def run (w : Watch) (events : List Event) : Watch := events.foldl step w

end Watch

end ClientOrigin
