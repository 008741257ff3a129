import ClientOrigin.Address.Printer
import ClientOrigin.Address.Reader

/-!
# Socket addresses

An address with a port; an IPv6 one also has a flow label and a scope.  The text shows the scope
unless it is zero, and never the flow label.
-/

namespace ClientOrigin

/-- The address of a socket. -/
inductive Endpoint where
  | v4 (ip : BitVec 32) (port : BitVec 16)
  | v6 (ip : BitVec 128) (flow scope : BitVec 32) (port : BitVec 16)
  deriving DecidableEq, Repr

namespace Endpoint

open Text

/-- The address without the port. -/
def address : Endpoint → Address
  | .v4 ip _ => .v4 ip
  | .v6 ip _ _ _ => .v6 ip

/-- The port. -/
def port : Endpoint → BitVec 16
  | .v4 _ port => port
  | .v6 _ _ _ port => port

/-- The address part of a socket address, as it stands before the colon of the port. -/
def printHost : Endpoint → Text
  | .v4 ip _ => Address.printV4 ip
  | .v6 ip _ scope _ =>
    let zone := if scope = 0 then [] else ['%'] ++ decimal scope.toNat
    ['['] ++ Address.printV6 ip ++ zone ++ [']']

/-- The text `a.b.c.d:port`, `[address]:port` or `[address%scope]:port`. -/
def print (e : Endpoint) : Text := e.printHost ++ [':'] ++ decimal e.port.toNat

/-- A number after the character `mark`, of any length but below `bound`. -/
def readMarked (mark : Char) (bound : Nat) (s : Text) : Option (Nat × Text) := do
  let rest ← Address.readChar? mark s
  Address.readNumber 10 rest.length bound rest

/-- The port, after its colon. -/
def readPort (s : Text) : Option (BitVec 16 × Text) := do
  let (port, rest) ← readMarked ':' 0x10000 s
  return (BitVec.ofNat 16 port, rest)

/-- An IPv4 socket address. -/
def readV4 (s : Text) : Option (Endpoint × Text) := do
  let (ip, rest) ← Address.readV4 .strict s
  let (port, rest) ← readPort rest
  return (.v4 ip port, rest)

/-- An IPv6 socket address. -/
def readV6 (s : Text) : Option (Endpoint × Text) := do
  let rest ← Address.readChar? '[' s
  let (ip, rest) ← Address.readV6 .strict rest
  let (scope, rest) := (readMarked '%' 0x100000000 rest).getD (0, rest)
  let rest ← Address.readChar? ']' rest
  let (port, rest) ← readPort rest
  return (.v6 ip 0 (BitVec.ofNat 32 scope) port, rest)

/-- A socket address of either family. -/
def read (s : Text) : Option (Endpoint × Text) :=
  match readV4 s with
  | some result => some result
  | none => readV6 s

/-- The socket address that a whole text writes. -/
def ofText? (s : Text) : Option Endpoint := Address.whole read s

end Endpoint

end ClientOrigin
