import ClientOrigin.Text.Digits
import ClientOrigin.Text.Pieces

/-!
# The `for=` attribute

An entry of the `Forwarded` header names its address in a `for=` attribute, as a dotted IPv4
literal or as an IPv6 literal in brackets, optionally after a quote.  The scanner looks at the
occurrences of `for=` from left to right and takes the first one that starts a word and is
followed by something of the shape of a literal.
-/

namespace ClientOrigin.Forwarded

open Text

/-- The text that introduces the attribute. -/
def marker : Text := ['f', 'o', 'r', '=']

/-- Characters of a word: ASCII letters, digits and the underscore. -/
def isWordChar (c : Char) : Bool := c.isAlphanum || c == '_'

/-- An occurrence of the marker: the character before it and the text after it. -/
structure Occurrence where
  before : Option Char
  after : Text
  deriving DecidableEq, Repr

/-- The occurrences of the marker in a text that follows the character `before`, from left to
right. -/
def occurrencesAfter (before : Option Char) : Text → List Occurrence
  | [] => []
  | c :: rest =>
    match after? marker (c :: rest) with
    | some after => ⟨before, after⟩ :: occurrencesAfter (some c) rest
    | none => occurrencesAfter (some c) rest

/-- The occurrences of the marker in a segment. -/
def occurrences (segment : Text) : List Occurrence := occurrencesAfter none segment

/-- The occurrence starts a word. -/
def Occurrence.startsWord (o : Occurrence) : Bool :=
  match o.before with
  | none => true
  | some c => !isWordChar c

/-- Characters of an IPv6 literal, in the scanner's view: hexadecimal digits and colons. -/
def isV6Char (c : Char) : Bool := isDigitOf 16 c || c == ':'

/-- The inside of brackets at the start of a text, if it is not empty and has only characters of
an IPv6 literal. -/
def bracketed? : Text → Option Text
  | '[' :: rest =>
    match cutFirst? ']' rest with
    | some (inner, _) => if inner ≠ [] ∧ inner.all isV6Char then some inner else none
    | none => none
  | _ => none

/-- Up to three decimal digits at the start of a text. -/
def digitGroup (s : Text) : Text := (s.take 3).takeWhile (isDigitOf 10)

/-- As many groups of one to three digits as `count` says, each after a dot. -/
def dottedTail? : (count : Nat) → Text → Option Text
  | 0, _ => some []
  | count + 1, '.' :: rest =>
    let group := digitGroup rest
    if group = [] then none
    else (dottedTail? count (rest.drop group.length)).map fun tail => '.' :: group ++ tail
  | _ + 1, _ => none

/-- Four groups of one to three digits, separated by dots, at the start of a text. -/
def dotted? (s : Text) : Option Text :=
  let group := digitGroup s
  if group = [] then none
  else (dottedTail? 3 (s.drop group.length)).map fun tail => group ++ tail

/-- The text without a quote at its start. -/
def unquoted : Text → Text
  | '"' :: rest => rest
  | s => s

/-- The literal after an occurrence of the marker. -/
def literal? (after : Text) : Option Text :=
  match bracketed? (unquoted after) with
  | some inner => some inner
  | none => dotted? (unquoted after)

/-- The literal that an occurrence offers. -/
def Occurrence.literal? (o : Occurrence) : Option Text :=
  if o.startsWord then Forwarded.literal? o.after else none

/-- The literal of the first occurrence that offers one. -/
def attribute? (segment : Text) : Option Text :=
  (occurrences segment).findSome? Occurrence.literal?

end ClientOrigin.Forwarded
