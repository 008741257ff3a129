import ClientOrigin.Address.Basic

/-!
# Networks

A block is an address of a family of `w`-bit addresses together with the number of leading bits
that its members share.  The bits after those are the host bits; a block may be written with any
host bits, and they do not matter for membership.
-/

namespace ClientOrigin

/-- The addresses that share their first `length` bits with `base`. -/
structure Block (w : Nat) where
  base : BitVec w
  length : Nat
  length_le : length ≤ w
  deriving DecidableEq, Repr

namespace Block

variable {w : Nat}

/-- How many addresses the block holds. -/
def size (b : Block w) : Nat := 1 <<< (w - b.length)

/-- The least address of the block. -/
def first (b : Block w) : Nat := b.base.toNat / b.size * b.size

/-- The greatest address of the block. -/
def last (b : Block w) : Nat := b.first + b.size - 1

/-- Membership: the address lies between the first and the last one. -/
def contains (b : Block w) (a : BitVec w) : Bool :=
  b.first ≤ a.toNat && a.toNat ≤ b.last

/-- The same block with its host bits cleared. -/
def truncated (b : Block w) : Block w := ⟨BitVec.ofNat w b.first, b.length, b.length_le⟩

end Block

/-- A network of either family. -/
inductive Network where
  | v4 (block : Block 32)
  | v6 (block : Block 128)
  deriving DecidableEq, Repr

namespace Network

/-- Membership of an address of the same family; an address of the other family is no member. -/
def contains : Network → Address → Bool
  | .v4 block, .v4 bits => block.contains bits
  | .v6 block, .v6 bits => block.contains bits
  | _, _ => false

/-- The same network with its host bits cleared. -/
def truncated : Network → Network
  | .v4 block => .v4 block.truncated
  | .v6 block => .v6 block.truncated

/-- The block of an IPv4 network. -/
def v4? : Network → Option (Block 32)
  | .v4 block => some block
  | .v6 _ => none

/-- The block of an IPv6 network. -/
def v6? : Network → Option (Block 128)
  | .v4 _ => none
  | .v6 block => some block

end Network

end ClientOrigin
