import ClientOrigin.Header.Map
import ClientOrigin.Text.Case

/-!
# Request parameters

A parameter may arrive in a header or as a query argument, under several names; headers win.  A
source without a usable value (absent, blank, or a header that is not visible ASCII) is passed
over.
-/

namespace ClientOrigin

open Text

/-- The arguments of a query, in order; of two with one name the later counts. -/
structure Query where
  arguments : List (Text × Text)
  deriving DecidableEq, Repr

namespace Query

/-- The value of the argument with the given name. -/
def get? (q : Query) (name : Text) : Option Text :=
  (q.arguments.reverse.find? fun argument => argument.1 = name).map (·.2)

end Query

namespace Parameter

/-- The text of the first line of a header, without white space around it, unless that is
empty. -/
def headerValue? (headers : HeaderMap) (name : Text) : Option Text := do
  let name ← HeaderName.ofText? name
  let line ← headers.first? name
  let text ← line.visible?
  if trim text = [] then none else some (trim text)

/-- The text of a query argument, looked up in lower case, without white space around it, unless
that is empty. -/
def queryValue? (query : Query) (name : Text) : Option Text := do
  let text ← query.get? (lower name)
  if trim text = [] then none else some (trim text)

/-- The first usable value among the named headers; the empty text if there is none. -/
def readHeader (headers : HeaderMap) (names : List Text) : Text :=
  (names.findSome? (headerValue? headers)).getD []

/-- The first usable value among the named query arguments; the empty text if there is none. -/
def readQuery (query : Query) (names : List Text) : Text :=
  (names.findSome? (queryValue? query)).getD []

/-- The value of a parameter: of its headers, else of its query arguments. -/
def read (headers : HeaderMap) (query : Query) (names : List Text) : Text :=
  let value := readHeader headers names
  if value = [] then readQuery query names else value

/-- The texts that mean yes. -/
def affirmative : List Text := [['1'], ['y', 'e', 's'], ['t', 'r', 'u', 'e']]

/-- A parameter that means yes or no; `fallback` if it is not given. -/
def readFlag (headers : HeaderMap) (query : Query) (fallback : Bool) (names : List Text) : Bool :=
  let value := lower (read headers query names)
  if value = [] then fallback else affirmative.contains value

end Parameter

end ClientOrigin
