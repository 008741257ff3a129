import ClientOrigin.Text.Digits
import ClientOrigin.Text.PrintTable

/-!
# Quoted text

A text between double quotes, in which the quote, the backslash and every character that cannot
be shown on its own are written as escapes.
-/

namespace ClientOrigin.Text

/-- Characters that a quoted text shows as they are, the quote and the backslash apart. -/
def isShown (c : Char) : Bool :=
  if 0x20 ≤ c.toNat && c.toNat < 0x7F then true
  else !inRanges graphemeExtendRanges c.toNat && !inRanges unprintableRanges c.toNat

/-- A character inside a quoted text. -/
def quotedChar (c : Char) : Text :=
  if c = '"' then ['\\', '"']
  else if c = '\\' then ['\\', '\\']
  else if c = '\t' then ['\\', 't']
  else if c = '\n' then ['\\', 'n']
  else if c = '\r' then ['\\', 'r']
  else if c.toNat = 0 then ['\\', '0']
  else if isShown c then [c]
  else ['\\', 'u', '\x7b'] ++ numeral 16 c.toNat ++ ['\x7d']

/-- A text between double quotes. -/
def quoted (s : Text) : Text := ['"'] ++ s.flatMap quotedChar ++ ['"']

end ClientOrigin.Text
