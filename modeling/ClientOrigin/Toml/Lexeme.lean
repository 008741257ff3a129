import ClientOrigin.Address.Reader
import ClientOrigin.Text.Pieces

/-!
# Lexemes of TOML

Blanks, comments, strings, keys and plain scalars of TOML 1.0, as readers that return the rest of
the text.
-/

namespace ClientOrigin.Toml

open Text

/-! ## Blanks and comments -/

/-- White space inside a line. -/
def isSpace (c : Char) : Bool := c == ' ' || c == '\t'

/-- The text without the white space at its start. -/
def skipSpaces (s : Text) : Text := s.dropWhile isSpace

/-- Characters beyond ASCII. -/
def isWide (c : Char) : Bool := 0x80 ≤ c.toNat

/-- Characters of a comment: no control characters but the tab. -/
def isCommentChar (c : Char) : Bool :=
  c == '\t' || (0x20 ≤ c.toNat && c.toNat ≤ 0x7E) || isWide c

/-- What follows the line break at the start of a text. -/
def newline? : Text → Option Text
  | '\n' :: rest => some rest
  | '\r' :: '\n' :: rest => some rest
  | _ => none

/-- The text without the comment at its start. -/
def skipComment : Text → Text
  | '#' :: rest => rest.dropWhile isCommentChar
  | s => s

/-- What follows the end of a line: white space, a comment, and a line break or the end of the
text. -/
def lineEnd? (s : Text) : Option Text :=
  match skipComment (skipSpaces s) with
  | [] => some []
  | s => newline? s

/-- The text without the blanks, comments and line breaks at its start, as far as they are
complete. -/
def skipLinesBy : (fuel : Nat) → Text → Text
  | 0, s => s
  | fuel + 1, s =>
    match newline? (skipComment (skipSpaces s)) with
    | some rest => skipLinesBy fuel rest
    | none => skipSpaces s

/-- The text without the blanks, comments and line breaks at its start. -/
def skipLines (s : Text) : Text := skipLinesBy s.length s

/-! ## Strings -/

/-- Characters that stand for themselves in a string between quotation marks. -/
def isBasicChar (c : Char) : Bool :=
  isSpace c || c == '!' || (0x23 ≤ c.toNat && c.toNat ≤ 0x5B) ||
    (0x5D ≤ c.toNat && c.toNat ≤ 0x7E) || isWide c

/-- Characters of a string between apostrophes. -/
def isLiteralChar (c : Char) : Bool :=
  c == '\t' || (0x20 ≤ c.toNat && c.toNat ≤ 0x26) || (0x28 ≤ c.toNat && c.toNat ≤ 0x7E) ||
    isWide c

/-- A code point in exactly `count` hexadecimal digits. -/
def readCodePoint (count : Nat) (s : Text) : Option (Text × Text) :=
  let digits := s.take count
  if digits.length = count ∧ digits.all (isDigitOf 16) ∧ (valueOf 16 digits).isValidChar then
    some ([Char.ofNat (valueOf 16 digits)], s.drop count)
  else none

/-- What follows the backslash of an escape. -/
def readEscape : Text → Option (Text × Text)
  | 'b' :: rest => some (['\x08'], rest)
  | 't' :: rest => some (['\t'], rest)
  | 'n' :: rest => some (['\n'], rest)
  | 'f' :: rest => some (['\x0c'], rest)
  | 'r' :: rest => some (['\r'], rest)
  | '"' :: rest => some (['"'], rest)
  | '\\' :: rest => some (['\\'], rest)
  | 'u' :: rest => readCodePoint 4 rest
  | 'U' :: rest => readCodePoint 8 rest
  | _ => none

/-- Pieces one after another, until `close` reads the end. -/
def readPieces (close piece : Text → Option (Text × Text)) :
    (fuel : Nat) → Text → Option (Text × Text)
  | 0, _ => none
  | fuel + 1, s =>
    match close s with
    | some result => some result
    | none => do
      let (part, rest) ← piece s
      let (parts, rest) ← readPieces close piece fuel rest
      return (part ++ parts, rest)

/-- The delimiter of a string on one line. -/
def closeLine (mark : Char) : Text → Option (Text × Text)
  | c :: rest => if c = mark then some ([], rest) else none
  | [] => none

/-- The delimiter of a string over several lines: three marks, after up to two that belong to the
string. -/
def closeLines (mark : Char) (s : Text) : Option (Text × Text) :=
  let count := min 5 (s.takeWhile (· == mark)).length
  if 3 ≤ count then some (List.replicate (count - 3) mark, s.drop count) else none

/-- A character or an escape of a string between quotation marks. -/
def basicPiece : Text → Option (Text × Text)
  | '\\' :: rest => readEscape rest
  | c :: rest => if isBasicChar c then some ([c], rest) else none
  | [] => none

/-- A character of a string between apostrophes. -/
def literalPiece : Text → Option (Text × Text)
  | c :: rest => if isLiteralChar c then some ([c], rest) else none
  | [] => none

/-- A line break, or a mark that does not close the string; else what `piece` reads. -/
def linesPiece (mark : Char) (piece : Text → Option (Text × Text)) (s : Text) :
    Option (Text × Text) :=
  match newline? s with
  | some rest => some (['\n'], rest)
  | none =>
    match s with
    | c :: rest => if c = mark then some ([c], rest) else piece s
    | [] => none

/-- The text without the white space and line breaks at its start. -/
def skipBlankLines : Text → Text
  | '\r' :: '\n' :: rest => skipBlankLines rest
  | c :: rest => if isSpace c || c == '\n' then skipBlankLines rest else c :: rest
  | [] => []

/-- A backslash at the end of a line joins it with the next text; else what `basicPiece` reads. -/
def joiningPiece : Text → Option (Text × Text)
  | '\\' :: rest =>
    match newline? (skipSpaces rest) with
    | some rest => some ([], skipBlankLines rest)
    | none => basicPiece ('\\' :: rest)
  | s => basicPiece s

/-- The text without a line break at its start. -/
def skipNewline (s : Text) : Text := (newline? s).getD s

/-- A string on one line. -/
def readLineString : Text → Option (Text × Text)
  | '"' :: rest => readPieces (closeLine '"') basicPiece (rest.length + 1) rest
  | '\'' :: rest => readPieces (closeLine '\'') literalPiece (rest.length + 1) rest
  | _ => none

/-- A string of any kind. -/
def readString : Text → Option (Text × Text)
  | '"' :: '"' :: '"' :: rest =>
    readPieces (closeLines '"') (linesPiece '"' joiningPiece) (rest.length + 1) (skipNewline rest)
  | '\'' :: '\'' :: '\'' :: rest =>
    readPieces (closeLines '\'') (linesPiece '\'' literalPiece) (rest.length + 1)
      (skipNewline rest)
  | s => readLineString s

/-! ## Keys -/

/-- Characters of a bare key. -/
def isKeyChar (c : Char) : Bool := c.isAlphanum || c == '_' || c == '-'

/-- One part of a key. -/
def readKeyPart (s : Text) : Option (Text × Text) :=
  match s with
  | '"' :: _ => readLineString s
  | '\'' :: _ => readLineString s
  | _ =>
    if s.takeWhile isKeyChar = [] then none
    else some (s.takeWhile isKeyChar, s.dropWhile isKeyChar)

/-- The parts of a key, separated by dots, with white space around each; at most `most` of
them. -/
def readKeyBy : (most : Nat) → Text → Option (List Text × Text)
  | 0, _ => none
  | most + 1, s => do
    let (part, rest) ← readKeyPart (skipSpaces s)
    match skipSpaces rest with
    | '.' :: rest => do
      let (parts, rest) ← readKeyBy most rest
      return (part :: parts, rest)
    | rest => return ([part], rest)

/-- How deep values may be nested, and how many parts a key may have. -/
def maxDepth : Nat := 79

/-- A key, with the white space around it. -/
def readKey (s : Text) : Option (List Text × Text) := readKeyBy maxDepth s

/-! ## Numbers -/

/-- Digits of a base with single underscores between them, after a first digit. -/
def moreDigits (base : Nat) : Text → Text × Text
  | [] => ([], [])
  | [c] => if isDigitOf base c then ([c], []) else ([], [c])
  | c :: d :: rest =>
    if isDigitOf base c then
      let (digits, rest) := moreDigits base (d :: rest)
      (c :: digits, rest)
    else if c = '_' ∧ isDigitOf base d then
      let (digits, rest) := moreDigits base rest
      (d :: digits, rest)
    else ([], c :: d :: rest)

/-- Digits of a base with single underscores between them. -/
def readDigits (base : Nat) : Text → Option (Text × Text)
  | [] => none
  | c :: rest =>
    if isDigitOf base c then
      let (digits, rest) := moreDigits base rest
      some (c :: digits, rest)
    else none

/-- A sign, if there is one: whether it is a minus, and the rest. -/
def readSign : Text → Bool × Text
  | '+' :: rest => (false, rest)
  | '-' :: rest => (true, rest)
  | s => (false, s)

/-- The digits of a decimal number without leading zeros. -/
def readWhole : Text → Option (Text × Text)
  | '0' :: rest => some (['0'], rest)
  | s => readDigits 10 s

/-- An integer of 64 bits. -/
def inRange (n : Int) : Bool := -0x8000000000000000 ≤ n && n < 0x8000000000000000

/-- The digits of an integer in base 16, 8 or 2, after its mark. -/
def readBased (base : Nat) (s : Text) : Option (Int × Text) := do
  let (digits, rest) ← readDigits base s
  let value : Int := valueOf base digits
  if inRange value then some (value, rest) else none

/-- An integer. -/
def readInteger : Text → Option (Int × Text)
  | '0' :: 'x' :: rest => readBased 16 rest
  | '0' :: 'o' :: rest => readBased 8 rest
  | '0' :: 'b' :: rest => readBased 2 rest
  | s => do
    let (negative, rest) := readSign s
    let (digits, rest) ← readWhole rest
    let size : Int := valueOf 10 digits
    let value := if negative then -size else size
    if inRange value then some (value, rest) else none

/-- The decimal number `digits * 10 ^ exponent` is beyond the greatest binary64 number, so that
the nearest one is infinity. -/
def overflows (digits : Nat) (exponent : Int) : Bool :=
  let bound : Nat := 1 <<< 1024 - 1 <<< 970
  let places : Int := (Nat.toDigits 10 digits).length
  if digits = 0 then false
  else if places + exponent < 300 then false
  else if 320 < places + exponent then true
  else if 0 ≤ exponent then bound ≤ digits * Nat.pow 10 exponent.toNat
  else bound * Nat.pow 10 (-exponent).toNat ≤ digits

/-- An exponent: its value, zero if there is none. -/
def readExponent : Text → Option (Int × Text)
  | 'e' :: rest => exponentValue rest
  | 'E' :: rest => exponentValue rest
  | _ => none
where
  /-- The digits of the exponent, after an optional sign. -/
  exponentValue (s : Text) : Option (Int × Text) := do
    let (negative, rest) := readSign s
    let (digits, rest) ← readDigits 10 rest
    let size : Int := valueOf 10 digits
    return (if negative then -size else size, rest)

/-- The digits after the point of a decimal number. -/
def readFraction : Text → Option (Text × Text)
  | '.' :: rest => readDigits 10 rest
  | _ => none

/-- A number with a fraction or an exponent, in decimal; one that exceeds all finite numbers is
refused. -/
def readDecimal (s : Text) : Option Text := do
  let (negative, rest) := readSign s
  let (whole, rest) ← readWhole rest
  let (fraction, exponent, rest) ←
    match readFraction rest with
    | some (fraction, rest) =>
      let (exponent, rest) := (readExponent rest).getD (0, rest)
      some (fraction, exponent, rest)
    | none => (readExponent rest).map fun result => ([], result.1, result.2)
  if !negative && overflows (valueOf 10 (whole ++ fraction)) (exponent - fraction.length) then none
  else some rest

/-- Infinity or the value that is no number. -/
def readSpecial (s : Text) : Option Text :=
  let rest := (readSign s).2
  (after? ['i', 'n', 'f'] rest).or (after? ['n', 'a', 'n'] rest)

/-- A floating-point number; only what follows it is kept. -/
def skipFloat? (s : Text) : Option Text := (readDecimal s).or (readSpecial s)

/-! ## Dates and times -/

/-- A number of exactly `count` digits, from `least` to `greatest`. -/
def readField (count least greatest : Nat) (s : Text) : Option (Nat × Text) :=
  let digits := s.take count
  let value := valueOf 10 digits
  if digits.length = count ∧ digits.all (isDigitOf 10) ∧ least ≤ value ∧ value ≤ greatest then
    some (value, s.drop count)
  else none

/-- How many days a month has. -/
def daysIn (year month : Nat) : Nat :=
  if month = 2 then
    if year % 4 = 0 ∧ (year % 100 ≠ 0 ∨ year % 400 = 0) then 29 else 28
  else if month ∈ [4, 6, 9, 11] then 30
  else 31

/-- A date. -/
def skipDate? (s : Text) : Option Text := do
  let (year, rest) ← readField 4 0 9999 s
  let rest ← Address.readChar? '-' rest
  let (month, rest) ← readField 2 1 12 rest
  let rest ← Address.readChar? '-' rest
  let (_, rest) ← readField 2 1 (daysIn year month) rest
  return rest

/-- A time of day, to the second or finer. -/
def skipTime? (s : Text) : Option Text := do
  let (_, rest) ← readField 2 0 23 s
  let rest ← Address.readChar? ':' rest
  let (_, rest) ← readField 2 0 59 rest
  let rest ← Address.readChar? ':' rest
  let (_, rest) ← readField 2 0 60 rest
  match rest with
  | '.' :: c :: rest =>
    if isDigitOf 10 c then return rest.dropWhile (isDigitOf 10) else return '.' :: c :: rest
  | rest => return rest

/-- The offset of a time from universal time. -/
def skipOffset? : Text → Option Text
  | 'Z' :: rest => some rest
  | 'z' :: rest => some rest
  | '+' :: rest => hours rest
  | '-' :: rest => hours rest
  | _ => none
where
  /-- Hours and minutes. -/
  hours (s : Text) : Option Text := do
    let (_, rest) ← readField 2 0 23 s
    let rest ← Address.readChar? ':' rest
    let (_, rest) ← readField 2 0 59 rest
    return rest

/-- A date, a time, or both with an optional offset; only what follows it is kept. -/
def skipDateTime? (s : Text) : Option Text :=
  match skipDate? s with
  | some rest =>
    match rest with
    | c :: timeText =>
      if c = 'T' ∨ c = 't' ∨ c = ' ' then
        match skipTime? timeText with
        | some afterTime => some ((skipOffset? afterTime).getD afterTime)
        | none => some rest
      else some rest
    | [] => some rest
  | none => skipTime? s

end ClientOrigin.Toml
