import ClientOrigin.Text.Blank

/-!
# UTF-8

Texts as bytes and bytes as text.  The decoder is a machine that stands either between two
characters or inside one.  `decode?` refuses bytes that are no UTF-8; `decodeLossy` writes one
replacement character for each longest run of bytes that begins a character but does not finish
one, and for each byte that begins none.
-/

namespace ClientOrigin

/-- A string of bytes. -/
abbrev Bytes := List UInt8

namespace Text

/-- The UTF-8 bytes of a text. -/
def utf8 (s : Text) : Bytes := s.flatMap String.utf8EncodeChar

/-- The character that stands for undecodable bytes. -/
def replacement : Char := Char.ofNat 0xFFFD

/-- Where the decoder stands inside a character: how many bytes are still owed, the bounds of the
next one, and the bits read so far. -/
structure Unfinished where
  owed : Nat
  least : Nat
  greatest : Nat
  bits : Nat
  deriving DecidableEq, Repr

/-- What the first byte of a character says. -/
inductive Lead where
  | ascii (c : Char)
  | opens (state : Unfinished)
  | invalid
  deriving DecidableEq, Repr

/-- Bytes of ASCII stand alone; the first byte of a longer character fixes how many follow and
which ones keep the form shortest, the surrogates out and the code point at most `0x10FFFF`. -/
def lead (b : UInt8) : Lead :=
  let n := b.toNat
  if n < 0x80 then .ascii (Char.ofNat n)
  else if n < 0xC2 then .invalid
  else if n < 0xE0 then .opens ⟨1, 0x80, 0xBF, n - 0xC0⟩
  else if n = 0xE0 then .opens ⟨2, 0xA0, 0xBF, 0⟩
  else if n = 0xED then .opens ⟨2, 0x80, 0x9F, 0xD⟩
  else if n < 0xF0 then .opens ⟨2, 0x80, 0xBF, n - 0xE0⟩
  else if n = 0xF0 then .opens ⟨3, 0x90, 0xBF, 0⟩
  else if n < 0xF4 then .opens ⟨3, 0x80, 0xBF, n - 0xF0⟩
  else if n = 0xF4 then .opens ⟨3, 0x80, 0x8F, 4⟩
  else .invalid

/-- The byte may be the next one of the character. -/
def Unfinished.accepts (state : Unfinished) (b : UInt8) : Bool :=
  state.least ≤ b.toNat && b.toNat ≤ state.greatest

/-- The bits of the character after one more byte of it. -/
def Unfinished.extend (state : Unfinished) (b : UInt8) : Nat := state.bits * 64 + (b.toNat - 0x80)

/-- One byte of the lossy decoder: the characters it completes and the character it leaves open.
A byte that the open character does not accept ends it as a replacement character and is then
read as a first byte. -/
def lossyStep : Option Unfinished → UInt8 → Text × Option Unfinished
  | none, b =>
    match lead b with
    | .ascii c => ([c], none)
    | .opens state => ([], some state)
    | .invalid => ([replacement], none)
  | some state, b =>
    if state.accepts b then
      if state.owed ≤ 1 then ([Char.ofNat (state.extend b)], none)
      else ([], some ⟨state.owed - 1, 0x80, 0xBF, state.extend b⟩)
    else
      match lead b with
      | .ascii c => ([replacement, c], none)
      | .opens next => ([replacement], some next)
      | .invalid => ([replacement, replacement], none)

/-- The lossy decoder from a given state to the end of the bytes. -/
def lossyFrom : Option Unfinished → Bytes → Text
  | none, [] => []
  | some _, [] => [replacement]
  | state, b :: rest =>
    let (out, next) := lossyStep state b
    out ++ lossyFrom next rest

/-- Bytes as text, with replacement characters for what is no UTF-8. -/
def decodeLossy (bytes : Bytes) : Text := lossyFrom none bytes

/-- The strict decoder from a given state to the end of the bytes. -/
def strictFrom : Option Unfinished → Bytes → Option Text
  | none, [] => some []
  | some _, [] => none
  | none, b :: rest =>
    match lead b with
    | .ascii c => (strictFrom none rest).map (c :: ·)
    | .opens state => strictFrom (some state) rest
    | .invalid => none
  | some state, b :: rest =>
    if state.accepts b then
      if state.owed ≤ 1 then
        (strictFrom none rest).map (Char.ofNat (state.extend b) :: ·)
      else strictFrom (some ⟨state.owed - 1, 0x80, 0xBF, state.extend b⟩) rest
    else none

/-- Bytes as text; none if they are no UTF-8. -/
def decode? (bytes : Bytes) : Option Text := strictFrom none bytes

end Text

end ClientOrigin
