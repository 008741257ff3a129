import ClientOrigin.Address.Basic
import ClientOrigin.Text.Digits
import ClientOrigin.Text.Pieces

/-!
# Addresses as text

IPv4 addresses in dotted decimal.  IPv6 addresses in lower-case hexadecimal groups, where the
first of the longest runs of two or more zero groups is left out; IPv4-mapped addresses end in
the dotted form.
-/

namespace ClientOrigin.Address

open Text

/-- An IPv4 address in dotted decimal. -/
def printV4 (bits : BitVec 32) : Text := joined ['.'] ((octets bits).map decimal)

/-- How many zeros a list begins with. -/
def leadingZeros (values : List Nat) : Nat := (values.takeWhile (· == 0)).length

/-- Position and length of the first longest run of zeros. -/
def zeroRun (values : List Nat) : Nat × Nat :=
  (List.range values.length).foldl
    (fun best i =>
      if best.2 < leadingZeros (values.drop i) then (i, leadingZeros (values.drop i)) else best)
    (0, 0)

/-- Groups in hexadecimal, separated by colons. -/
def printGroups (values : List Nat) : Text := joined [':'] (values.map (numeral 16))

/-- An IPv6 address that is not IPv4-mapped. -/
def printPlainV6 (values : List Nat) : Text :=
  let run := zeroRun values
  if 1 < run.2 then
    printGroups (values.take run.1) ++ [':', ':'] ++ printGroups (values.drop (run.1 + run.2))
  else printGroups values

/-- An IPv6 address. -/
def printV6 (bits : BitVec 128) : Text :=
  match mapped? bits with
  | some inner => [':', ':', 'f', 'f', 'f', 'f', ':'] ++ printV4 inner
  | none => printPlainV6 (groups bits)

/-- An address of either family. -/
def print : Address → Text
  | .v4 bits => printV4 bits
  | .v6 bits => printV6 bits

end ClientOrigin.Address
