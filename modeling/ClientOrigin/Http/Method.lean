import ClientOrigin.Header.Name

/-!
# Request methods

A method is a token of HTTP, and its letters count as they are.
-/

namespace ClientOrigin

/-- A request method. -/
structure Method where
  text : Text
  isToken : text ≠ [] ∧ text.all isTokenChar
  deriving DecidableEq, Repr

namespace Method

/-- The method that a text names. -/
def ofText? (s : Text) : Option Method :=
  if h : s ≠ [] ∧ s.all isTokenChar then some ⟨s, h⟩ else none

/-- The method that asks for a resource. -/
def get : Method := ⟨['G', 'E', 'T'], by decide⟩

/-- The method that asks for what `get` would give, without the body. -/
def head : Method := ⟨['H', 'E', 'A', 'D'], by decide⟩

/-- The method as a string. -/
def toString (m : Method) : String := String.ofList m.text

end Method

end ClientOrigin
