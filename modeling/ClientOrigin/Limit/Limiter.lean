import ClientOrigin.Address.Basic
import ClientOrigin.Limit.Bucket

/-!
# The rate limiter

One token bucket for each client address.  A client's first request finds a full bucket, and
pruning drops the buckets that have been idle too long.
-/

namespace ClientOrigin

open TokenArithmetic

/-- Buckets of client addresses, each address at most once, with the rate and the capacity that
they share. -/
structure Limiter (α : Type) where
  rate : α
  capacity : α
  buckets : List (Address × Bucket α)
  deriving Repr

namespace Limiter

variable {α : Type} [TokenArithmetic α]

/-- A limiter that has seen no client. -/
def start (requestsPerSecond burst : Nat) : Limiter α := ⟨ofNat requestsPerSecond, ofNat burst, []⟩

/-- The bucket of an address. -/
def bucket? (l : Limiter α) (a : Address) : Option (Bucket α) := l.buckets.lookup a

/-- The limiter with the given bucket for an address. -/
def withBucket (l : Limiter α) (a : Address) (b : Bucket α) : Limiter α :=
  { l with buckets := (a, b) :: l.buckets.filter fun entry => entry.1 ≠ a }

/-- A request of a client: whether it is granted, and the limiter after it. -/
def check (l : Limiter α) (now : Nat) (a : Address) : Bool × Limiter α :=
  let b := (l.bucket? a).getD (Bucket.full l.capacity now)
  let (granted, b) := b.acquire l.capacity l.rate now
  (granted, l.withBucket a b)

/-- The limiter without the buckets that have been idle for longer than `maxIdle`. -/
def prune (l : Limiter α) (now maxIdle : Nat) : Limiter α :=
  { l with buckets := l.buckets.filter fun entry => now - entry.2.updated ≤ maxIdle }

/-- How long, in nanoseconds, a bucket may be idle before a server drops it: five minutes. -/
def serverIdle : Nat := 300000000000

/-- How many clients have a bucket. -/
def tracked (l : Limiter α) : Nat := l.buckets.length

/-- What happens to a limiter. -/
inductive Step where
  | check (client : Address)
  | advance (nanos : Nat)
  | prune (maxIdle : Nat)
  deriving DecidableEq, Repr

/-- A limiter and the time on its clock, in nanoseconds. -/
structure Timed (α : Type) where
  now : Nat
  limiter : Limiter α
  deriving Repr

/-- One step: the outcome, if it is a request, and what follows. -/
def Timed.step (t : Timed α) : Step → Option Bool × Timed α
  | .check client =>
    let (granted, limiter) := t.limiter.check t.now client
    (some granted, { t with limiter })
  | .advance nanos => (none, { t with now := t.now + nanos })
  | .prune maxIdle => (none, { t with limiter := t.limiter.prune t.now maxIdle })

/-- The steps one after another: the outcome of each, and what follows. -/
def Timed.run (t : Timed α) : List Step → List (Option Bool) × Timed α
  | [] => ([], t)
  | step :: rest =>
    let (outcome, t) := t.step step
    let (outcomes, t) := t.run rest
    (outcome :: outcomes, t)

end Limiter

end ClientOrigin
