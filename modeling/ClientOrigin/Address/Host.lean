import ClientOrigin.Address.Endpoint
import ClientOrigin.Text.Case
import ClientOrigin.Text.Pieces

/-!
# Hosts

A host is given by its address or by its name.  Addresses of hosts have more spellings than plain
addresses: the octets of an IPv4 address may be joined and written in several bases, and an IPv6
address may carry the number of a zone.
-/

namespace ClientOrigin.Host

open Text

/-! ## Addresses -/

/-- A number: hexadecimal after `0x`, octal after a zero, otherwise decimal. -/
def numeral? (s : Text) : Option Nat :=
  let (base, digits) := match s with
    | '0' :: 'x' :: rest => (16, rest)
    | '0' :: 'X' :: rest => (16, rest)
    | '0' :: rest => (8, '0' :: rest)
    | s => (10, s)
  if digits ≠ [] ∧ digits.all (isDigitOf base) then some (valueOf base digits) else none

/-- An IPv4 address of one to four numbers: an octet each, but the last one stands for all octets
that remain. -/
def readV4? (s : Text) : Option (BitVec 32) := do
  let numbers ← (pieces '.' s).mapM numeral?
  let front := numbers.dropLast
  let bits := 8 * (4 - front.length)
  let last ← numbers.getLast?
  if front.length < 4 ∧ front.all (· < 256) ∧ last < 1 <<< bits then
    some (BitVec.ofNat 32 (Address.ofParts 256 front <<< bits + last))
  else none

/-- The number of a zone. -/
def zone? (s : Text) : Option (BitVec 32) :=
  if s ≠ [] ∧ s.all (isDigitOf 10) ∧ valueOf 10 s < 0x100000000 then
    some (BitVec.ofNat 32 (valueOf 10 s))
  else none

/-- An IPv6 address, perhaps with the number of its zone. -/
def readV6? (s : Text) : Option (BitVec 128 × BitVec 32) :=
  match cutFirst? '%' s with
  | none => (Address.whole (Address.readV6 .strict) s).map fun bits => (bits, 0)
  | some (address, zone) => do
    let bits ← Address.whole (Address.readV6 .strict) address
    let zone ← zone? zone
    return (bits, zone)

/-- The socket of a port on a host that needs no look-up: its address is given, or it is the own
machine. -/
def endpoint? (host : Text) (port : BitVec 16) : Option Endpoint :=
  if eqIgnoringAsciiCase host "localhost".toList then
    some (.v4 (Address.ofOctets [127, 0, 0, 1]) port)
  else
    match readV4? host with
    | some bits => some (.v4 bits port)
    | none => (readV6? host).map fun result => .v6 result.1 0 result.2 port

/-! ## Names -/

/-- Characters of a name. -/
def isNameChar (c : Char) : Bool := c.isAlphanum || c == '-' || c == '_'

/-- A name without its escapes: a backslash before a character, or before its code in three
digits, stands for the character.  Only characters of names can be written so. -/
def unescaped? : Text → Option Text
  | [] => some []
  | '\\' :: rest =>
    match rest with
    | a :: b :: c :: rest =>
      if isDigitOf 10 a then
        let code := valueOf 10 [a, b, c]
        if isDigitOf 10 b ∧ isDigitOf 10 c ∧ code < 256 ∧ isNameChar (Char.ofNat code) then
          (unescaped? rest).map (Char.ofNat code :: ·)
        else none
      else if isNameChar a then (unescaped? (b :: c :: rest)).map (a :: ·)
      else none
    | [a, b] => if isNameChar a && !isDigitOf 10 a then (unescaped? [b]).map (a :: ·) else none
    | [a] => if isNameChar a && !isDigitOf 10 a then some [a] else none
    | [] => none
  | c :: rest => (unescaped? rest).map (c :: ·)

/-- A name without the dot at its end. -/
def withoutDot (s : Text) : Text := if s.getLast? = some '.' then s.dropLast else s

/-- The labels of a name have 1 to 63 characters, and the name has at most 253. -/
def areLabels (s : Text) : Bool :=
  s.length ≤ 253 &&
    (pieces '.' s).all fun label => label ≠ [] && label.length ≤ 63 && label.all isNameChar

/-- The text can be the name of a host. -/
def isName (s : Text) : Bool :=
  match unescaped? s with
  | none => false
  | some name => name = ['.'] || (name.head? ≠ some '-' && areLabels (withoutDot name))

end ClientOrigin.Host
