/-!
# Counting tokens

The arithmetic that a token bucket needs, so that one definition of the bucket can be read with
rounded and with exact numbers.
-/

namespace ClientOrigin

/-- Numbers in which tokens are counted. -/
class TokenArithmetic (α : Type) where
  /-- A whole number. -/
  ofNat : Nat → α
  /-- A time in nanoseconds, in seconds. -/
  seconds : Nat → α
  add : α → α → α
  sub : α → α → α
  mul : α → α → α
  le : α → α → Bool

namespace TokenArithmetic

/-- The lesser of two numbers. -/
def least {α : Type} [TokenArithmetic α] (a b : α) : α := if le a b then a else b

end TokenArithmetic

/-- Exact arithmetic. -/
instance : TokenArithmetic Rat where
  ofNat n := n
  seconds nanos := (nanos : Rat) / 1000000000
  add := (· + ·)
  sub := (· - ·)
  mul := (· * ·)
  le a b := decide (a ≤ b)

end ClientOrigin
