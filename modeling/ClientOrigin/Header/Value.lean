import ClientOrigin.Text.Digits
import ClientOrigin.Text.Utf8

/-!
# Header values

A header value is a string of bytes without control characters, the tab excepted.  It need not be
text; a value is read as text in two ways, strictly as visible ASCII and loosely as UTF-8.
-/

namespace ClientOrigin

/-- Bytes that a header value may hold. -/
def isValueByte (b : UInt8) : Bool := b.toNat == 9 || (0x20 ≤ b.toNat && b.toNat != 0x7F)

/-- Bytes of visible ASCII, the space and the tab included. -/
def isVisibleByte (b : UInt8) : Bool :=
  b.toNat == 9 || (0x20 ≤ b.toNat && b.toNat ≤ 0x7E)

/-- A header value. -/
structure HeaderValue where
  bytes : Bytes
  legal : bytes.all isValueByte
  deriving DecidableEq, Repr

namespace HeaderValue

/-- The header value of the given bytes, if each of them may stand in one. -/
def ofBytes? (bytes : Bytes) : Option HeaderValue :=
  if h : bytes.all isValueByte then some ⟨bytes, h⟩ else none

/-- The header value of the UTF-8 bytes of a text. -/
def ofText? (s : Text) : Option HeaderValue := ofBytes? (Text.utf8 s)

/-- A decimal digit may stand in a header value. -/
theorem all_isValueByte_of_isDigit {c : Char} (h : c.isDigit) :
    (String.utf8EncodeChar c).all isValueByte := by
  simp only [Char.isDigit, Bool.and_eq_true, decide_eq_true_eq, ge_iff_le,
    UInt32.le_iff_toNat_le] at h
  have least : 48 ≤ c.toNat := h.1
  have greatest : c.toNat ≤ 57 := h.2
  have single : String.utf8EncodeChar c = [UInt8.ofNat c.toNat] := by
    simp [String.utf8EncodeChar]
    omega
  have byte : (UInt8.ofNat c.toNat).toNat = c.toNat := by
    simp only [UInt8.toNat_ofNat']; omega
  simp only [single, List.all_cons, List.all_nil, Bool.and_true, isValueByte, byte]
  simp; omega

/-- A decimal number may stand in a header value. -/
theorem all_isValueByte_decimal (n : Nat) :
    (Text.utf8 (Text.decimal n)).all isValueByte := by
  simp only [Text.utf8, List.all_flatMap, List.all_eq_true (l := Text.decimal n)]
  intro c mem
  exact all_isValueByte_of_isDigit (Nat.isDigit_of_mem_toDigits (by decide) (by decide) mem)

/-- A number in decimal. -/
def ofNat (n : Nat) : HeaderValue := ⟨Text.utf8 (Text.decimal n), all_isValueByte_decimal n⟩

/-- The value as text, if it is visible ASCII throughout. -/
def visible? (v : HeaderValue) : Option Text :=
  if v.bytes.all isVisibleByte then some (v.bytes.map fun b => Char.ofNat b.toNat) else none

/-- The value as text, with replacement characters for what is no UTF-8. -/
def lossy (v : HeaderValue) : Text := Text.decodeLossy v.bytes

end HeaderValue

end ClientOrigin
