import ClientOrigin.Forwarded.Attribute
import ClientOrigin.Text.Utf8

/-!
# The scanner on bytes

The scanner of the `for=` attribute as it moves over a segment in place: the segment is its bytes,
a position is an index, and what has been found is cut out of the bytes.  Every access is checked:
an index may lie outside the bytes, and a text may be cut inside a character.  A scan has a number
of rounds to spend, one for each look at an occurrence of the marker.
-/

namespace ClientOrigin.Forwarded.Scan

open Text

/-- Why a scan has no result. -/
inductive Fault where
  /-- An index lies outside the bytes. -/
  | outOfRange
  /-- A text is cut inside a character. -/
  | insideCharacter
  /-- There is another occurrence of the marker, but no round left. -/
  | outOfRounds
  deriving DecidableEq, Repr

/-- What a checked step gives. -/
abbrev Checked := Except Fault

/-! ## Access -/

/-- A text may be cut at an index: at its start, at its end, and in front of a byte that does not
continue a character. -/
def isBoundary (text : Bytes) (index : Nat) : Bool :=
  index == 0 ||
    match text[index]? with
    | some b => b.toNat < 0x80 || 0xC0 ≤ b.toNat
    | none => index == text.length

/-- The byte at an index. -/
def byteAt (bytes : Bytes) (index : Nat) : Checked UInt8 :=
  match bytes[index]? with
  | some b => .ok b
  | none => .error .outOfRange

/-- The bytes from an index on. -/
def bytesFrom (bytes : Bytes) (index : Nat) : Checked Bytes :=
  if index ≤ bytes.length then .ok (bytes.drop index) else .error .outOfRange

/-- An index at which a text is cut. -/
def cutAt (text : Bytes) (index : Nat) : Checked Unit :=
  if text.length < index then .error .outOfRange
  else if isBoundary text index then .ok ()
  else .error .insideCharacter

/-- The text from an index on. -/
def textFrom (text : Bytes) (index : Nat) : Checked Bytes := do
  cutAt text index
  return text.drop index

/-- The text up to an index. -/
def textTo (text : Bytes) (index : Nat) : Checked Bytes := do
  cutAt text index
  return text.take index

/-- The index of the first place where a pattern stands. -/
def find? (pattern : Bytes) : Bytes → Option Nat
  | [] => if pattern = [] then some 0 else none
  | b :: rest =>
    if pattern.isPrefixOf (b :: rest) then some 0 else (find? pattern rest).map (· + 1)

/-! ## Literals -/

/-- Bytes of a word. -/
def isWordByte (b : UInt8) : Bool := isWordChar (Char.ofNat b.toNat)

/-- Bytes of an IPv6 literal. -/
def isV6Byte (b : UInt8) : Bool := isV6Char (Char.ofNat b.toNat)

/-- Decimal digits. -/
def isDigitByte (b : UInt8) : Bool := isDigitOf 10 (Char.ofNat b.toNat)

/-- The text without a quote at its start. -/
def unquoted : Bytes → Bytes
  | 0x22 :: rest => rest
  | text => text

/-- The inside of brackets at the start of a text. -/
def bracketed? : Bytes → Checked (Option Bytes)
  | 0x5B :: rest =>
    match find? (utf8 [']']) rest with
    | some stop => do
      let inner ← textTo rest stop
      return if inner ≠ [] ∧ inner.all isV6Byte then some inner else none
    | none => return none
  | _ => return none

/-- The index behind `count` groups of digits from the index `stop` on, each of them after a dot
unless it is the first. -/
def groupsEnd? (text : Bytes) : (count : Nat) → (isFirst : Bool) → (stop : Nat) →
    Checked (Option Nat)
  | 0, _, stop => return some stop
  | count + 1, isFirst, stop =>
    if !isFirst && text[stop]? != some 0x2E then return none
    else do
      let start := if isFirst then stop else stop + 1
      let behind ← bytesFrom text start
      let digits := (behind.take 3).takeWhile isDigitByte
      if digits = [] then return none
      else groupsEnd? text count false (start + digits.length)

/-- Four groups of digits at the start of a text. -/
def dotted? (text : Bytes) : Checked (Option Bytes) := do
  match ← groupsEnd? text 4 true 0 with
  | some stop => return some (← textTo text stop)
  | none => return none

/-- The literal at the start of a text, after a quote or without one. -/
def literal? (text : Bytes) : Checked (Option Bytes) := do
  match ← bracketed? (unquoted text) with
  | some inner => return some inner
  | none => dotted? (unquoted text)

/-! ## Rounds -/

/-- The byte in front of an index, if there is one, belongs to a word. -/
def isInsideWord (segment : Bytes) (start : Nat) : Checked Bool := do
  if 0 < start then return isWordByte (← byteAt segment (start - 1)) else return false

/-- What the occurrence of the marker at an index offers. -/
def round (segment : Bytes) (start : Nat) : Checked (Option Bytes) := do
  if ← isInsideWord segment start then return none
  else literal? (← textFrom segment (start + (utf8 marker).length))

/-- The scan from an index on.  A round takes the next occurrence of the marker and goes on behind
it, unless it offers a literal. -/
def scanFrom (segment : Bytes) : (rounds : Nat) → (index : Nat) → Checked (Option Bytes)
  | rounds, index => do
    match find? (utf8 marker) (← textFrom segment index) with
    | none => return none
    | some offset =>
      match rounds with
      | 0 => throw .outOfRounds
      | rounds + 1 =>
        match ← round segment (index + offset) with
        | some literal => return some literal
        | none => scanFrom segment rounds (index + offset + (utf8 marker).length)

/-- How often a pattern stands in a text. -/
def count (pattern text : Bytes) : Nat :=
  (List.range text.length).countP fun index => pattern.isPrefixOf (text.drop index)

end ClientOrigin.Forwarded.Scan
