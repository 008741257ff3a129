import ClientOrigin.Address.Printer
import ClientOrigin.Address.Reader
import ClientOrigin.Network.Basic

/-!
# Networks as text

The notation `address/length`.  The length is required; it has at most two digits for IPv4 and
three for IPv6.
-/

namespace ClientOrigin.Network

open Text

/-- The text `address/length`. -/
def print : Network → Text
  | .v4 block => Address.printV4 block.base ++ ['/'] ++ decimal block.length
  | .v6 block => Address.printV6 block.base ++ ['/'] ++ decimal block.length

/-- A block whose address has been read: its length after a slash. -/
def readLength {w : Nat} (digits : Nat) (base : BitVec w) (s : Text) :
    Option (Block w × Text) := do
  let rest ← Address.readChar? '/' s
  let (length, rest) ← Address.readNumber 10 digits (w + 1) rest
  if h : length ≤ w then some (⟨base, length, h⟩, rest) else none

/-- An IPv4 network. -/
def readV4 (s : Text) : Option (Block 32 × Text) := do
  let (base, rest) ← Address.readV4 .lenient s
  readLength 2 base rest

/-- An IPv6 network. -/
def readV6 (s : Text) : Option (Block 128 × Text) := do
  let (base, rest) ← Address.readV6 .lenient s
  readLength 3 base rest

/-- A network of either family. -/
def read (s : Text) : Option (Network × Text) :=
  match readV4 s with
  | some (block, rest) => some (.v4 block, rest)
  | none => (readV6 s).map fun result => (.v6 result.1, result.2)

/-- The network that a whole text writes. -/
def ofText? (s : Text) : Option Network := Address.whole read s

end ClientOrigin.Network
