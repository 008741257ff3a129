import ClientOrigin.Text.Digits
import ClientOrigin.Text.Pieces
import ClientOrigin.Text.Utf8

/-!
# Request targets

The target of a request is a path with an optional query, an absolute address whose scheme and
authority are checked and dropped, an authority alone, or an asterisk.  A fragment is dropped.
-/

namespace ClientOrigin

open Text

/-- The path and the query of a request target.  The path is empty if the target is an
authority. -/
structure Target where
  path : Text
  query : Option Text
  deriving DecidableEq, Repr

/-- Why a text is no target. -/
inductive TargetError where
  | empty
  | tooLong
  | schemeTooLong
  | invalidCharacter
  | invalidAuthority
  | invalidFormat
  deriving DecidableEq, Repr

/-- The wording of the error. -/
def TargetError.message : TargetError → String
  | .empty => "empty string"
  | .tooLong => "uri too long"
  | .schemeTooLong => "scheme too long"
  | .invalidCharacter => "invalid uri character"
  | .invalidAuthority => "invalid authority"
  | .invalidFormat => "invalid format"

namespace Target

/-- The most bytes that a target has. -/
def maxLength : Nat := 65534

/-- The most characters that a scheme has. -/
def maxScheme : Nat := 64

/-! ## Path and query -/

/-- Characters of a path: those that need no escape, and some more that are in use. -/
def isPathChar (c : Char) : Bool :=
  let n := c.toNat
  n == 0x21 || n == 0x22 || (0x24 ≤ n && n ≤ 0x3B) || n == 0x3D || (0x40 ≤ n && n ≤ 0x5F) ||
    (0x61 ≤ n && n ≠ 0x7F)

/-- Characters of a query. -/
def isQueryChar (c : Char) : Bool :=
  let n := c.toNat
  n == 0x21 || (0x24 ≤ n && n ≤ 0x3B) || n == 0x3D || (0x3F ≤ n && n ≠ 0x7F)

/-- The characters before the query or the fragment. -/
def pathPart (s : Text) : Text := s.takeWhile fun c => c ≠ '?' && c ≠ '#'

/-- The query of a text, between a question mark and the fragment. -/
def queryPart? (s : Text) : Option Text :=
  match s.drop (pathPart s).length with
  | '?' :: rest => some (rest.takeWhile (· ≠ '#'))
  | _ => none

/-- The target of a path with an optional query and fragment. -/
def ofResource (s : Text) : Except TargetError Target :=
  if (pathPart s).all isPathChar && ((queryPart? s).getD []).all isQueryChar then
    .ok ⟨pathPart s, queryPart? s⟩
  else .error .invalidCharacter

/-! ## Scheme and authority -/

/-- Characters of a scheme. -/
def isSchemeChar (c : Char) : Bool := c.isAlphanum || ['+', '-', '.', '~'].contains c

/-- The characters of the scheme before a colon and two slashes, and what follows them.  There
has to be something around the colon and the slashes, but a scheme may be empty. -/
def cutScheme? (s : Text) : Option (Text × Text) :=
  if s.length ≤ 3 then none
  else
    (after? [':', '/', '/'] (s.dropWhile isSchemeChar)).map fun rest =>
      (s.takeWhile isSchemeChar, rest)

/-- Characters of an authority without a meaning of their own. -/
def isPlainAuthorityChar (c : Char) : Bool :=
  c.isAlphanum ||
    ['!', '$', '&', '\'', '(', ')', '*', '+', ',', '-', '.', ';', '=', '_', '~'].contains c

/-- What has been seen of an authority: the colons and percent signs that may belong to the host,
and the brackets. -/
structure AuthorityState where
  colons : Nat
  opened : Bool
  closed : Bool
  percent : Bool
  deriving DecidableEq, Repr

/-- Nothing has been seen. -/
def AuthorityState.start : AuthorityState := ⟨0, false, false, false⟩

/-- One more character.  An at sign ends the user's part, and a closing bracket the literal
address: what was counted before does not matter after it. -/
def AuthorityState.step (state : AuthorityState) (c : Char) : Except TargetError AuthorityState :=
  if c = ':' then
    if 8 ≤ state.colons then .error .invalidAuthority
    else .ok { state with colons := state.colons + 1 }
  else if c = '[' then
    if state.percent || state.opened then .error .invalidAuthority
    else .ok { state with opened := true }
  else if c = ']' then
    if !state.opened || state.closed then .error .invalidAuthority
    else .ok { state with closed := true, colons := 0, percent := false }
  else if c = '@' then .ok { state with colons := 0, percent := false }
  else if c = '%' then .ok { state with percent := true }
  else if isPlainAuthorityChar c then .ok state
  else .error .invalidCharacter

/-- The characters of the authority at the start of a text. -/
def authorityPart (s : Text) : Text := s.takeWhile fun c => c ≠ '/' && c ≠ '?' && c ≠ '#'

/-- An authority has balanced brackets, at most one colon and no percent sign after its user's
part, and something after its last at sign. -/
def checkAuthority (s : Text) : Except TargetError Unit := do
  let state ← s.foldlM AuthorityState.step .start
  if state.opened != state.closed || 1 < state.colons || s.getLast? = some '@' ||
      state.percent then .error .invalidAuthority
  else .ok ()

/-! ## Targets -/

/-- The target of an absolute address, from its authority on.  An empty path stands for the root. -/
def ofAbsolute (s : Text) : Except TargetError Target := do
  checkAuthority (authorityPart s)
  if s = [] then .error .empty
  else if authorityPart s = [] then .error .invalidFormat
  else
    let target ← ofResource (s.drop (authorityPart s).length)
    return { target with path := if target.path = [] then ['/'] else target.path }

/-- The target of an authority. -/
def ofAuthority (s : Text) : Except TargetError Target := do
  checkAuthority (authorityPart s)
  if authorityPart s = s then .ok ⟨[], none⟩
  else if s.length = 1 then .error .invalidCharacter
  else .error .invalidFormat

/-- The target that a text writes. -/
def ofText (s : Text) : Except TargetError Target :=
  if maxLength < (utf8 s).length then .error .tooLong
  else if s = [] then .error .empty
  else if s = ['*'] then .ok ⟨s, none⟩
  else if s.head? = some '/' then ofResource s
  else
    match cutScheme? s with
    | some (scheme, rest) =>
      if maxScheme < scheme.length then .error .schemeTooLong else ofAbsolute rest
    | none => ofAuthority s

end Target

end ClientOrigin
