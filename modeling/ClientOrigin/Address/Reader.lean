import ClientOrigin.Address.Basic
import ClientOrigin.Text.Digits

/-!
# Reading addresses

Readers take a text and return what they read with the rest, so that an address can stand inside
a longer text.  Two spellings are in use: the strict one of plain addresses, and the one of
network prefixes, which allows leading zeros in octets and a `::` that stands for no group.
-/

namespace ClientOrigin

/-- Reads something at the start of a text and returns the rest. -/
abbrev Reader (α : Type) := Text → Option (α × Text)

namespace Address

open Text

/-- What is allowed in the text of an address. -/
structure Spelling where
  /-- Octets may have leading zeros. -/
  leadingZeros : Bool
  /-- A double colon may stand between eight groups. -/
  emptyGap : Bool
  deriving DecidableEq, Repr

/-- Plain addresses: no leading zeros in octets, and a double colon stands for a group at least. -/
def Spelling.strict : Spelling := ⟨false, false⟩

/-- Addresses of network prefixes. -/
def Spelling.lenient : Spelling := ⟨true, true⟩

/-- The rest of a text that begins with `c`. -/
def readChar? (c : Char) : Text → Option Text
  | [] => none
  | d :: rest => if d = c then some rest else none

/-- A number of one to `most` digits, below `bound`. -/
def readNumber (base most bound : Nat) (s : Text) : Option (Nat × Text) :=
  let (digits, rest) := spanDigits base s
  if digits ≠ [] ∧ digits.length ≤ most ∧ valueOf base digits < bound then
    some (valueOf base digits, rest)
  else none

/-- An octet in decimal. -/
def readOctet (spelling : Spelling) (s : Text) : Option (Nat × Text) :=
  let padded := match (spanDigits 10 s).1 with
    | '0' :: _ :: _ => true
    | _ => false
  if padded && !spelling.leadingZeros then none else readNumber 10 3 256 s

/-- As many octets as `count` says, each after a dot. -/
def readDottedTail (spelling : Spelling) : (count : Nat) → Text → Option (List Nat × Text)
  | 0, s => some ([], s)
  | count + 1, s => do
    let rest ← readChar? '.' s
    let (octet, rest) ← readOctet spelling rest
    let (others, rest) ← readDottedTail spelling count rest
    return (octet :: others, rest)

/-- Four octets separated by dots. -/
def readOctets (spelling : Spelling) (s : Text) : Option (List Nat × Text) := do
  let (octet, rest) ← readOctet spelling s
  let (others, rest) ← readDottedTail spelling 3 rest
  return (octet :: others, rest)

/-- An IPv4 address. -/
def readV4 (spelling : Spelling) (s : Text) : Option (BitVec 32 × Text) := do
  let (values, rest) ← readOctets spelling s
  return (ofOctets values, rest)

/-- A group of up to four hexadecimal digits. -/
def readGroup (s : Text) : Option (Nat × Text) := readNumber 16 4 65536 s

/-- The text after the colon that separates an item from the one before it; the first item has
none. -/
def afterSeparator? (isFirst : Bool) (s : Text) : Option Text :=
  if isFirst then some s else readChar? ':' s

/-- The groups at the start of a text, at most `most` of them, whether the last two came from a
dotted IPv4 address, and the rest. -/
def readGroups (spelling : Spelling) :
    (most : Nat) → (isFirst : Bool) → Text → List Nat × Bool × Text
  | 0, _, s => ([], false, s)
  | most + 1, isFirst, s =>
    let dotted := if most = 0 then none else afterSeparator? isFirst s >>= readOctets spelling
    match dotted with
    | some ([a, b, c, d], rest) => ([a * 256 + b, c * 256 + d], true, rest)
    | _ =>
      match afterSeparator? isFirst s >>= readGroup with
      | some (group, rest) =>
        let (others, ended, rest) := readGroups spelling most false rest
        (group :: others, ended, rest)
      | none => ([], false, s)

/-- An IPv6 address: eight groups, or fewer with one double colon among them.  A dotted IPv4
address may stand for the last two groups. -/
def readV6 (spelling : Spelling) (s : Text) : Option (BitVec 128 × Text) :=
  let (front, dotted, rest) := readGroups spelling 8 true s
  if front.length = 8 then some (ofGroups front, rest)
  else if dotted then none
  else do
    let rest ← readChar? ':' rest
    let rest ← readChar? ':' rest
    let room := if spelling.emptyGap then 8 - front.length else 7 - front.length
    let (back, _, rest) := readGroups spelling room true rest
    let gap := List.replicate (8 - front.length - back.length) 0
    return (ofGroups (front ++ gap ++ back), rest)

/-- An address of either family. -/
def read (s : Text) : Option (Address × Text) :=
  match readV4 .strict s with
  | some (bits, rest) => some (.v4 bits, rest)
  | none => (readV6 .strict s).map fun result => (.v6 result.1, result.2)

/-- The value of a reader that reads the whole text. -/
def whole {α : Type} (reader : Text → Option (α × Text)) (s : Text) : Option α :=
  match reader s with
  | some (value, []) => some value
  | _ => none

/-- The address that a whole text writes. -/
def ofText? (s : Text) : Option Address := whole read s

end Address

end ClientOrigin
