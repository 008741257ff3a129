import ClientOrigin.Text.Case

/-!
# Header names

A header name is a token of HTTP, and its letters count in either case; it is kept in lower case.
-/

namespace ClientOrigin

/-- The characters of an HTTP token. -/
def isTokenChar (c : Char) : Bool :=
  c.isAlphanum || ['!', '#', '$', '%', '&', '\'', '*', '+', '-', '.', '^', '_', '\u0060', '|',
    '~'].contains c

/-- A header name in lower case. -/
structure HeaderName where
  text : Text
  nonempty : text ≠ []
  tokens : text.all fun c => isTokenChar c && !c.isUpper
  deriving DecidableEq, Repr

namespace HeaderName

/-- The most characters that a header name has. -/
def maxLength : Nat := 65535

/-- The header name that a text writes, its letters in either case. -/
def ofText? (s : Text) : Option HeaderName :=
  let lowered := s.map Text.asciiLower
  if h : lowered ≠ [] ∧ lowered.length ≤ maxLength ∧
      lowered.all (fun c => isTokenChar c && !c.isUpper) then
    some ⟨lowered, h.1, h.2.2⟩
  else none

/-- The name as a string. -/
def toString (name : HeaderName) : String := String.ofList name.text

/-- The header of request ids. -/
def requestId : HeaderName :=
  ⟨['x', '-', 'r', 'e', 'q', 'u', 'e', 's', 't', '-', 'i', 'd'], by decide, by decide⟩

/-- The header with the length of a body. -/
def contentLength : HeaderName :=
  ⟨['c', 'o', 'n', 't', 'e', 'n', 't', '-', 'l', 'e', 'n', 'g', 't', 'h'], by decide, by decide⟩

/-- The header with the type of a body. -/
def contentType : HeaderName :=
  ⟨['c', 'o', 'n', 't', 'e', 'n', 't', '-', 't', 'y', 'p', 'e'], by decide, by decide⟩

/-- The header with the methods that a resource answers. -/
def allow : HeaderName := ⟨['a', 'l', 'l', 'o', 'w'], by decide, by decide⟩

end HeaderName

end ClientOrigin
