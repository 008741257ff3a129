import ClientOrigin.Network.Basic

/-!
# Aggregation

Blocks of one family are brought into a normal form in three steps: each block becomes a range
of addresses, ranges that touch are merged, and each merged range is cut into blocks again, from
its start on, the largest that fits first.  The blocks of the normal form hold the same addresses
as the blocks it came from.
-/

namespace ClientOrigin

/-- The addresses from the first to the last one, both included. -/
structure AddressRange where
  first : Nat
  last : Nat
  deriving DecidableEq, Repr

namespace AddressRange

/-- The range of a block. -/
def ofBlock {w : Nat} (b : Block w) : AddressRange := ⟨b.first, b.last⟩

/-- Ranges in the order of their first addresses, then of their last ones. -/
def le (a b : AddressRange) : Bool :=
  decide (a.first < b.first ∨ (a.first = b.first ∧ a.last ≤ b.last))

/-- The range `current` merged with the ranges after it; a gap begins a new range. -/
def mergeFrom (current : AddressRange) : List AddressRange → List AddressRange
  | [] => [current]
  | next :: rest =>
    if next.first ≤ current.last + 1 then
      mergeFrom ⟨min current.first next.first, max current.last next.last⟩ rest
    else current :: mergeFrom next rest

/-- Sorted ranges, merged where they touch or overlap. -/
def merge : List AddressRange → List AddressRange
  | [] => []
  | range :: rest => mergeFrom range rest

end AddressRange

namespace Block

/-- How many low bits of a `w`-bit address are zero. -/
def trailingZeros : (w value : Nat) → Nat
  | 0, _ => 0
  | w + 1, value => if value % 2 = 0 then trailingZeros w (value / 2) + 1 else 0

/-- How many host bits the first block of a range has: as many as its start is aligned for and
the count of addresses allows. -/
def hostBits (w start last : Nat) : Nat :=
  min (Nat.log2 (last - start + 1)) (trailingZeros w start)

/-- The first block of the range from `start` to `last`. -/
def leading (w start last : Nat) : Block w :=
  ⟨BitVec.ofNat w start, w - hostBits w start last, Nat.sub_le _ _⟩

/-- The blocks of the range from `start` to `last`; `fuel` bounds their number. -/
def coverFrom (w last : Nat) : (fuel start : Nat) → List (Block w)
  | 0, _ => []
  | fuel + 1, start =>
    if start ≤ last then
      let block := leading w start last
      block :: coverFrom w last fuel (block.last + 1)
    else []

/-- The blocks of a range.  A range of `w`-bit addresses falls into at most `2 * w` blocks, or
into one if there are no bits. -/
def cover (w : Nat) (range : AddressRange) : List (Block w) :=
  coverFrom w range.last (2 * w + 1) range.first

/-- The normal form of a list of blocks. -/
def aggregate {w : Nat} (blocks : List (Block w)) : List (Block w) :=
  let ranges := (blocks.map AddressRange.ofBlock).mergeSort AddressRange.le
  (AddressRange.merge ranges).flatMap (cover w)

end Block

/-- The normal form of a list of networks: IPv4 before IPv6, each family on its own. -/
def Network.aggregate (networks : List Network) : List Network :=
  (Block.aggregate (networks.filterMap Network.v4?)).map .v4 ++
    (Block.aggregate (networks.filterMap Network.v6?)).map .v6

end ClientOrigin
