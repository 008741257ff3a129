import ClientOrigin.Limit.Arithmetic

/-!
# Binary64 numbers

Nonnegative binary floating-point numbers of 53 significant bits, as exact numbers: every such
number is a multiple of `2 ^ -1074`, and it is represented by how many of these units it has.
Each operation computes exactly and then rounds to the nearest number, to the even one of two
that are equally near.  Infinity is left out: the numbers of token buckets stay far below it.
-/

namespace ClientOrigin

/-- A nonnegative binary64 number, counted in units of `2 ^ -1074`. -/
structure Binary64 where
  units : Nat
  deriving DecidableEq, Repr

namespace Binary64

/-- How many units make one. -/
def scale : Nat := 1 <<< 1074

/-- The quotient of two numbers, rounded to the nearest integer, ties to the even one. -/
def nearest (num den : Nat) : Nat :=
  let quotient := num / den
  let rest := num % den
  if 2 * rest < den then quotient
  else if den < 2 * rest then quotient + 1
  else quotient + quotient % 2

/-- The spacing of the numbers near `units`: those below `2 ^ 53` units are all representable,
and above that 53 significant bits are. -/
def quantum (units : Nat) : Nat := if units < 1 <<< 53 then 1 else 1 <<< (Nat.log2 units - 52)

/-- The number nearest to `num / den` units. -/
def rounded (num den : Nat) : Binary64 :=
  let step := quantum (num / den)
  ⟨nearest num (den * step) * step⟩

/-- A whole number. -/
def ofNat (n : Nat) : Binary64 := rounded (n * scale) 1

/-- The sum. -/
def add (a b : Binary64) : Binary64 := rounded (a.units + b.units) 1

/-- The difference, zero if it is negative. -/
def sub (a b : Binary64) : Binary64 := rounded (a.units - b.units) 1

/-- The product. -/
def mul (a b : Binary64) : Binary64 := rounded (a.units * b.units) scale

/-- The quotient by a positive whole number. -/
def divNat (a : Binary64) (n : Nat) : Binary64 := rounded a.units n

/-- The order. -/
def le (a b : Binary64) : Bool := a.units ≤ b.units

/-- A time in seconds: the whole seconds and the rounded fraction, added. -/
def seconds (nanos : Nat) : Binary64 :=
  add (ofNat (nanos / 1000000000)) (divNat (ofNat (nanos % 1000000000)) 1000000000)

instance : TokenArithmetic Binary64 where
  ofNat := ofNat
  seconds := seconds
  add := add
  sub := sub
  mul := mul
  le := le

end Binary64

end ClientOrigin
