import ClientOrigin.Parameter
import ClientOrigin.Text.Digits
import ClientOrigin.Text.Pieces
import ClientOrigin.Text.Utf8

/-!
# Form data

The query of a target as arguments: parts between ampersands, each a name and a value around its
first equals sign, with plus signs for spaces and bytes in hexadecimal after percent signs.
-/

namespace ClientOrigin

open Text

namespace Form

/-- The byte that two hexadecimal digits write. -/
def hexByte? (high low : UInt8) : Option UInt8 := do
  let high ← digitValue? 16 (Char.ofNat high.toNat)
  let low ← digitValue? 16 (Char.ofNat low.toNat)
  return UInt8.ofNat (high * 16 + low)

/-- Bytes with the escapes replaced by what they stand for; a percent sign without two digits
stays. -/
def unescaped : Bytes → Bytes
  | a :: b :: c :: rest =>
    match if a = 0x25 then hexByte? b c else none with
    | some byte => byte :: unescaped rest
    | none => a :: unescaped (b :: c :: rest)
  | rest => rest

/-- Bytes with spaces for plus signs. -/
def spaced (bytes : Bytes) : Bytes := bytes.map fun b => if b = 0x2B then 0x20 else b

/-- A name or a value. -/
def component (s : Text) : Text := decodeLossy (unescaped (spaced (utf8 s)))

/-- A name with its value, which is empty without an equals sign. -/
def argument (s : Text) : Text × Text :=
  match cutFirst? '=' s with
  | some (name, value) => (component name, component value)
  | none => (component s, [])

end Form

/-- The arguments of the query of a target. -/
def Query.ofForm (s : Text) : Query :=
  ⟨((pieces '&' s).filter (· ≠ [])).map Form.argument⟩

end ClientOrigin
