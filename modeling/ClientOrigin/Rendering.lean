import ClientOrigin.Address.Reader
import ClientOrigin.Resolve

/-!
# Renderings of a resolved address

A resolved address is shown bare on a line of its own, or as a JSON object together with its
source, on one line or indented.
-/

namespace ClientOrigin

open Text

/-! ## Objects of plain texts -/

/-- A JSON object whose members are texts without quotes, backslashes and control characters. -/
structure JsonObject where
  members : List (Text × Text)
  deriving DecidableEq, Repr

namespace JsonObject

/-- A plain text as a JSON string. -/
def plain (s : Text) : Text := ['"'] ++ s ++ ['"']

/-- A member without white space. -/
def compactMember (m : Text × Text) : Text := plain m.1 ++ [':'] ++ plain m.2

/-- The object on one line. -/
def compact (o : JsonObject) : Text :=
  ['\x7b'] ++ joined [','] (o.members.map compactMember) ++ ['\x7d']

/-- A member on a line of its own, indented by two spaces. -/
def indentedMember (m : Text × Text) : Text := [' ', ' '] ++ plain m.1 ++ [':', ' '] ++ plain m.2

/-- The object with each member on a line of its own. -/
def indented (o : JsonObject) : Text :=
  ['\x7b', '\n'] ++ joined [',', '\n'] (o.members.map indentedMember) ++ ['\n', '\x7d']

/-- The text without the white space of JSON at its start. -/
def skipBlank (s : Text) : Text := s.dropWhile fun c => [' ', '\t', '\n', '\r'].contains c

/-- A JSON string with a plain text, after white space. -/
def readPlain (s : Text) : Option (Text × Text) :=
  match skipBlank s with
  | '"' :: rest =>
    match cutFirst? '"' rest with
    | some (content, rest) =>
      if content.all (fun c => c ≠ '\\' && 0x20 ≤ c.toNat) then some (content, rest) else none
    | none => none
  | _ => none

/-- A member, and the text after the white space that follows it. -/
def readMember (s : Text) : Option ((Text × Text) × Text) := do
  let (name, rest) ← readPlain s
  let rest ← Address.readChar? ':' (skipBlank rest)
  let (value, rest) ← readPlain rest
  return ((name, value), skipBlank rest)

/-- Members between commas up to the closing brace; `fuel` bounds their number. -/
def readMembers : (fuel : Nat) → Text → Option (List (Text × Text) × Text)
  | 0, _ => none
  | fuel + 1, s => do
    let (member, rest) ← readMember s
    match rest with
    | ',' :: rest => do
      let (members, rest) ← readMembers fuel rest
      return (member :: members, rest)
    | '\x7d' :: rest => return ([member], rest)
    | _ => none

/-- The object that a whole text writes, if it has members. -/
def ofText? (s : Text) : Option JsonObject := do
  let rest ← Address.readChar? '\x7b' (skipBlank s)
  let (members, rest) ← readMembers s.length rest
  if skipBlank rest = [] then some ⟨members⟩ else none

end JsonObject

/-! ## Resolved addresses -/

/-- How a resolved address is shown. -/
inductive Rendering where
  | bare
  | compact
  | indented
  deriving DecidableEq, Repr

namespace Resolution

/-- The address and its source as an object. -/
def object (r : Resolution) : JsonObject :=
  ⟨[("ip".toList, r.address.print), ("source".toList, r.source.name.toList)]⟩

/-- The resolved address as it is shown. -/
def render (r : Resolution) : Rendering → Text
  | .bare => r.address.print ++ ['\n']
  | .compact => r.object.compact
  | .indented => r.object.indented

end Resolution

end ClientOrigin
