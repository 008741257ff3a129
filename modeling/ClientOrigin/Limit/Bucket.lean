import ClientOrigin.Limit.Arithmetic

/-!
# Token buckets

A bucket holds tokens up to its capacity.  It is refilled at a steady rate, and each granted
request takes one token.  Every request refills and stamps the bucket, also one that is denied.
-/

namespace ClientOrigin

open TokenArithmetic

/-- A bucket and the time of its last refill, in nanoseconds. -/
structure Bucket (α : Type) where
  tokens : α
  updated : Nat
  deriving Repr

namespace Bucket

variable {α : Type} [TokenArithmetic α]

/-- A full bucket. -/
def full (capacity : α) (now : Nat) : Bucket α := ⟨capacity, now⟩

/-- The bucket with the tokens that came in since its last refill. -/
def refilled (b : Bucket α) (capacity rate : α) (now : Nat) : Bucket α :=
  ⟨least (add b.tokens (mul (seconds (now - b.updated)) rate)) capacity, now⟩

/-- There is a whole token in the bucket. -/
def hasToken (b : Bucket α) : Bool := le (ofNat 1) b.tokens

/-- The bucket without one of its tokens. -/
def spent (b : Bucket α) : Bucket α := { b with tokens := sub b.tokens (ofNat 1) }

/-- A request at the bucket: whether it is granted, and the bucket after it. -/
def acquire (b : Bucket α) (capacity rate : α) (now : Nat) : Bool × Bucket α :=
  let b := b.refilled capacity rate now
  if b.hasToken then (true, b.spent) else (false, b)

end Bucket

end ClientOrigin
