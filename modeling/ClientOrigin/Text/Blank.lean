/-!
# Blank characters

White space in the sense of Unicode (the property `White_Space`), and texts with the white space
around them removed.  A text is a list of characters throughout the library.
-/

namespace ClientOrigin

/-- A text: its characters in order. -/
abbrev Text := List Char

namespace Text

/-- The 25 characters of the property `White_Space`. -/
def isBlank (c : Char) : Bool :=
  let n := c.toNat
  (9 ≤ n && n ≤ 13) || n == 0x20 || n == 0x85 || n == 0xA0 || n == 0x1680 ||
    (0x2000 ≤ n && n ≤ 0x200A) || n == 0x2028 || n == 0x2029 || n == 0x202F || n == 0x205F ||
    n == 0x3000

/-- The text without the white space at its start. -/
def trimStart (s : Text) : Text := s.dropWhile isBlank

/-- The text without the white space at its end. -/
def trimEnd (s : Text) : Text := (s.reverse.dropWhile isBlank).reverse

/-- The text without the white space around it. -/
def trim (s : Text) : Text := trimEnd (trimStart s)

end Text

end ClientOrigin
