import ClientOrigin.Header.Name
import ClientOrigin.Header.Value

/-!
# Headers

The header lines of a message in order.  A name may have several lines.
-/

namespace ClientOrigin

/-- Header lines in order. -/
structure HeaderMap where
  lines : List (HeaderName × HeaderValue)
  deriving DecidableEq, Repr

namespace HeaderMap

/-- No header line. -/
def empty : HeaderMap := ⟨[]⟩

/-- The headers with one more line at the end. -/
def append (headers : HeaderMap) (name : HeaderName) (value : HeaderValue) : HeaderMap :=
  ⟨headers.lines ++ [(name, value)]⟩

/-- The values of the lines with the given name, in order. -/
def all (headers : HeaderMap) (name : HeaderName) : List HeaderValue :=
  (headers.lines.filter fun line => line.1 = name).map (·.2)

/-- The value of the first line with the given name. -/
def first? (headers : HeaderMap) (name : HeaderName) : Option HeaderValue :=
  (headers.all name).head?

/-- There is a line with the given name. -/
def has (headers : HeaderMap) (name : HeaderName) : Bool := (headers.first? name).isSome

/-- The headers with a line of the given name unless there is one. -/
def addMissing (headers : HeaderMap) (name : HeaderName) (value : HeaderValue) : HeaderMap :=
  if headers.has name then headers else headers.append name value

end HeaderMap

/-- What is wrong with a header line. -/
inductive HeaderError where
  | invalidName
  | invalidValue
  deriving DecidableEq, Repr

namespace HeaderError

/-- The wording of the error. -/
def message : HeaderError → String
  | .invalidName => "invalid HTTP header name"
  | .invalidValue => "failed to parse header value"

end HeaderError

/-- The headers of raw lines; the first line with a fault decides, its name before its value. -/
def HeaderMap.ofLines : List (Text × Bytes) → Except HeaderError HeaderMap
  | [] => .ok .empty
  | (name, value) :: rest =>
    match HeaderName.ofText? name with
    | none => .error .invalidName
    | some name =>
      match HeaderValue.ofBytes? value with
      | none => .error .invalidValue
      | some value => (ofLines rest).map fun headers => ⟨(name, value) :: headers.lines⟩

end ClientOrigin
