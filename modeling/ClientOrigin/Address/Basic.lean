/-!
# IP addresses

An address of either family as its bits, its parts (octets and groups), and the canonical form in
which an IPv4 host has one address only.
-/

namespace ClientOrigin

/-- An IP address. -/
inductive Address where
  | v4 (bits : BitVec 32)
  | v6 (bits : BitVec 128)
  deriving DecidableEq, Repr

namespace Address

/-- The address `0.0.0.0`. -/
def unspecified : Address := .v4 0#32

/-- The parts of a number, most significant first: `count` digits in base `base`. -/
def parts (base : Nat) : (count value : Nat) → List Nat
  | 0, _ => []
  | count + 1, value => parts base count (value / base) ++ [value % base]

/-- The number with the given digits in base `base`, most significant first. -/
def ofParts (base : Nat) (digits : List Nat) : Nat :=
  digits.foldl (fun value digit => value * base + digit) 0

/-- The four octets of an IPv4 address. -/
def octets (bits : BitVec 32) : List Nat := parts 256 4 bits.toNat

/-- The eight groups of an IPv6 address. -/
def groups (bits : BitVec 128) : List Nat := parts 65536 8 bits.toNat

/-- The IPv4 address with the given octets. -/
def ofOctets (values : List Nat) : BitVec 32 := BitVec.ofNat 32 (ofParts 256 values)

/-- The IPv6 address with the given groups. -/
def ofGroups (values : List Nat) : BitVec 128 := BitVec.ofNat 128 (ofParts 65536 values)

/-- The IPv4 address inside an IPv4-mapped IPv6 address, `::ffff:a.b.c.d`. -/
def mapped? (bits : BitVec 128) : Option (BitVec 32) :=
  if bits.toNat >>> 32 = 0xFFFF then some (BitVec.ofNat 32 bits.toNat) else none

/-- The IPv6 form of an IPv4 address. -/
def mappedForm (bits : BitVec 32) : BitVec 128 :=
  BitVec.ofNat 128 (0xFFFF <<< 32 + bits.toNat)

/-- The IPv4 form of an IPv4-mapped address; any other address itself. -/
def canonical : Address → Address
  | .v4 bits => .v4 bits
  | .v6 bits =>
    match mapped? bits with
    | some inner => .v4 inner
    | none => .v6 bits

/-- A canonical address is its own canonical form. -/
def IsCanonical (a : Address) : Prop := a.canonical = a

instance (a : Address) : Decidable a.IsCanonical := inferInstanceAs (Decidable (_ = _))

end Address

end ClientOrigin
