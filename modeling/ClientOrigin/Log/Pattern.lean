import ClientOrigin.Text.Digits
import ClientOrigin.Text.LetterTable
import ClientOrigin.Text.Pieces

/-!
# Value patterns

A directive of a log filter may ask for a value of a field, as a number or as a regular
expression.  This module says which texts are well formed.  Counted repetition and named
classes are not: their closing brace would end the field.
-/

namespace ClientOrigin.Pattern

open Text

/-! ## Escapes -/

/-- What an escape stands for: one character, a set of characters, or a place in the text. -/
inductive Escape where
  | character (c : Char)
  | set
  | place
  deriving DecidableEq, Repr

/-- A character by its code point in `count` hexadecimal digits. -/
def readCode (count : Nat) (s : Text) : Option (Escape × Text) :=
  let digits := s.take count
  if digits.length = count ∧ digits.all (isDigitOf 16) ∧ (valueOf 16 digits).isValidChar then
    some (.character (Char.ofNat (valueOf 16 digits)), s.drop count)
  else none

/-- The letters of the general categories. -/
def isCategory (c : Char) : Bool := ['c', 'l', 'm', 'n', 'p', 's', 'z'].contains c.toLower

/-- Characters that stand for themselves behind a backslash: those of ASCII that are neither
letters nor digits, without the two angle brackets. -/
def isPlainEscape (c : Char) : Bool :=
  c.toNat < 0x80 && !c.isAlphanum && c != '<' && c != '>'

/-- What follows the backslash of an escape.  Boundaries of words are not supported. -/
def readEscape : Text → Option (Escape × Text)
  | [] => none
  | c :: rest =>
    if c = 'x' then readCode 2 rest
    else if c = 'u' then readCode 4 rest
    else if c = 'U' then readCode 8 rest
    else if c = 'p' ∨ c = 'P' then
      match rest with
      | category :: rest => if isCategory category then some (.set, rest) else none
      | [] => none
    else if ['d', 'D', 's', 'S', 'w', 'W'].contains c then some (.set, rest)
    else if c = 'A' ∨ c = 'z' then some (.place, rest)
    else if c = 'a' then some (.character '\x07', rest)
    else if c = 'f' then some (.character '\x0c', rest)
    else if c = 't' then some (.character '\t', rest)
    else if c = 'n' then some (.character '\n', rest)
    else if c = 'r' then some (.character '\r', rest)
    else if c = 'v' then some (.character '\x0b', rest)
    else if isPlainEscape c then some (.character c, rest)
    else none

/-! ## Sets in brackets -/

/-- Names of sets in brackets. -/
def setNames : List String :=
  ["alnum", "alpha", "ascii", "blank", "cntrl", "digit", "graph", "lower", "print", "punct",
    "space", "upper", "word", "xdigit"]

/-- What follows a named set, of which the bracket has been read. -/
def afterNamedSet? (s : Text) : Option Text := do
  let rest ← after? [':'] s
  let (name, rest) ← cutFirst? ':' ((after? ['^'] rest).getD rest)
  let rest ← after? [']'] rest
  if setNames.contains (String.ofList name) then some rest else none

/-- The text inside brackets without what has a meaning of its own at the start: a negation, then
hyphens, or else a closing bracket that belongs to the set. -/
def afterSetStart (s : Text) : Text :=
  match (after? ['^'] s).getD s with
  | '-' :: rest => rest.dropWhile (· = '-')
  | ']' :: rest => rest
  | rest => rest

/-- A member of a set, as it stands alone or at an end of a range. -/
def readMember : Text → Option (Escape × Text)
  | [] => none
  | '\\' :: rest => (readEscape rest).filter fun result => result.1 != .place
  | c :: rest => some (.character c, rest)

/-- A range goes from a character to one that is not less. -/
def isRange : Escape → Escape → Bool
  | .character low, .character high => low ≤ high
  | _, _ => false

/-- A member of a set or a range of members; a hyphen before a bracket or before another hyphen
makes no range. -/
def afterMembers? (s : Text) : Option Text := do
  let (low, rest) ← readMember s
  match rest with
  | '-' :: next =>
    if next.head? = some ']' ∨ next.head? = some '-' then some rest
    else do
      let (high, rest) ← readMember next
      if isRange low high then some rest else none
  | _ => some rest

/-- What follows the sets in brackets of which `depth` are open; operations between sets are two
equal marks. -/
def afterSet? : (fuel depth : Nat) → Text → Option Text
  | 0, _, _ => none
  | fuel + 1, depth, s =>
    match s with
    | [] => none
    | '[' :: rest =>
      match afterNamedSet? rest with
      | some rest => afterSet? fuel depth rest
      | none => afterSet? fuel (depth + 1) (afterSetStart rest)
    | ']' :: rest => if depth ≤ 1 then some rest else afterSet? fuel (depth - 1) rest
    | '&' :: '&' :: rest => afterSet? fuel depth rest
    | '-' :: '-' :: rest => afterSet? fuel depth rest
    | '~' :: '~' :: rest => afterSet? fuel depth rest
    | s => afterMembers? s >>= afterSet? fuel depth

/-! ## Groups -/

/-- The name of a group begins with a letter or an underscore; later characters may be numbers,
dots and brackets as well. -/
def isGroupName : Text → Bool
  | [] => false
  | c :: rest =>
    (c = '_' || (isLetterOrNumber c && !c.isDigit)) &&
      rest.all fun c => c = '_' || ['.', '[', ']'].contains c || isLetterOrNumber c

/-- Flags: each at most once, with at most one minus sign among them, which is not the last. -/
def areFlags (s : Text) : Bool :=
  s.all (['i', 'm', 's', 'U', 'u', 'R', 'x', '-'].contains ·) && decide s.Nodup &&
    s.getLast? != some '-'

/-- What has been read of an expression: the open groups, the names of groups, and whether
something stands before the next character that can be repeated. -/
structure State where
  depth : Nat
  names : List Text
  repeatable : Bool
  deriving DecidableEq, Repr

namespace State

/-- Nothing has been read. -/
def start : State := ⟨0, [], false⟩

/-- A group begins. -/
def openGroup (state : State) : State :=
  { state with depth := state.depth + 1, repeatable := false }

/-- A group with a name begins. -/
def openNamed? (state : State) (s : Text) : Option (State × Text) := do
  let (name, rest) ← cutFirst? '>' s
  if isGroupName name ∧ name ∉ state.names then
    some ({ state.openGroup with names := name :: state.names }, rest)
  else none

/-- What follows the parenthesis of a group: a name, or flags for the group or for what comes
after them, or neither. -/
def openAny? (state : State) (s : Text) : Option (State × Text) :=
  match s with
  | '?' :: 'P' :: '<' :: rest => state.openNamed? rest
  | '?' :: '<' :: rest => state.openNamed? rest
  | '?' :: rest =>
    let flags := rest.takeWhile fun c => c ≠ ':' && c ≠ ')'
    if areFlags flags then
      match rest.drop flags.length with
      | ':' :: rest => some (state.openGroup, rest)
      | ')' :: rest => if flags = [] then none else some ({ state with repeatable := false }, rest)
      | _ => none
    else none
  | rest => some (state.openGroup, rest)

/-- One item of an expression. -/
def read? (state : State) (c : Char) (rest : Text) : Option (State × Text) :=
  let done (rest : Text) : State × Text := ({ state with repeatable := true }, rest)
  if c = '(' then state.openAny? rest
  else if c = ')' then
    if state.depth = 0 then none
    else some ({ state with depth := state.depth - 1, repeatable := true }, rest)
  else if c = '|' then some ({ state with repeatable := false }, rest)
  else if c = '*' ∨ c = '+' ∨ c = '?' then
    if state.repeatable then some (done ((after? ['?'] rest).getD rest)) else none
  else if c = '\x7b' then none
  else if c = '[' then (afterSet? (rest.length + 1) 1 (afterSetStart rest)).map done
  else if c = '\\' then (readEscape rest).map fun result => done result.2
  else some (done rest)

end State

/-- The rest of an expression is well formed, and every group is closed at its end. -/
def isRest : (fuel : Nat) → State → Text → Bool
  | _, state, [] => state.depth = 0
  | 0, _, _ :: _ => false
  | fuel + 1, state, c :: rest =>
    match state.read? c rest with
    | some (state, rest) => isRest fuel state rest
    | none => false

/-- The text is a regular expression. -/
def isExpression (s : Text) : Bool := isRest s.length .start s

/-! ## Numbers -/

/-- An exponent, or nothing. -/
def isExponent : Text → Bool
  | [] => true
  | c :: rest =>
    let digits := (after? ['-'] rest).getD ((after? ['+'] rest).getD rest)
    (c = 'e' || c = 'E') && digits ≠ [] && digits.all (isDigitOf 10)

/-- The text is a number without a sign, an infinity, or the value that is no number. -/
def isNumber (s : Text) : Bool :=
  let (whole, rest) := spanDigits 10 s
  let (fraction, rest) := match rest with
    | '.' :: rest => spanDigits 10 rest
    | rest => ([], rest)
  (whole ++ fraction ≠ [] && isExponent rest) ||
    ["inf", "infinity", "nan"].contains (String.ofList (s.map Char.toLower))

/-- The text asks for a value: as an expression, or as a number, which may have a plus sign that
no expression begins with. -/
def isPattern (s : Text) : Bool :=
  isExpression s ||
    match s with
    | '+' :: rest => isNumber rest
    | _ => false

end ClientOrigin.Pattern
