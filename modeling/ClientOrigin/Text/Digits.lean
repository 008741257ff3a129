import ClientOrigin.Text.Blank

/-!
# Numerals

Numbers written with the fewest digits, and the digits at the start of a text.
-/

namespace ClientOrigin.Text

/-- The digit of a value below 16, letters in lower case. -/
def digitChar (value : Nat) : Char := Nat.digitChar value

/-- A number in a base from 2 to 16, without leading zeros. -/
def numeral (base value : Nat) : Text := Nat.toDigits base value

/-- A number in decimal. -/
def decimal (value : Nat) : Text := numeral 10 value

/-- The value of a digit in bases up to 16; letters count in either case. -/
def digitValue? (base : Nat) (c : Char) : Option Nat :=
  let n := c.toNat
  let value :=
    if 48 ≤ n && n ≤ 57 then some (n - 48)
    else if 97 ≤ n && n ≤ 102 then some (n - 87)
    else if 65 ≤ n && n ≤ 70 then some (n - 55)
    else none
  value.filter (· < base)

/-- The character is a digit of the base. -/
def isDigitOf (base : Nat) (c : Char) : Bool := (digitValue? base c).isSome

/-- The number that a row of digits writes; a character that is no digit counts as zero. -/
def valueOf (base : Nat) (digits : Text) : Nat :=
  digits.foldl (fun value c => value * base + (digitValue? base c).getD 0) 0

/-- The digits at the start of a text, and the rest. -/
def spanDigits (base : Nat) (s : Text) : Text × Text :=
  (s.takeWhile (isDigitOf base), s.dropWhile (isDigitOf base))

/-- A whole text that is a decimal number below `bound`, after an optional plus sign. -/
def boundedDecimal? (bound : Nat) (s : Text) : Option Nat :=
  let digits := match s with
    | '+' :: rest => rest
    | _ => s
  if digits ≠ [] ∧ digits.all (isDigitOf 10) ∧ valueOf 10 digits < bound then
    some (valueOf 10 digits)
  else none

end ClientOrigin.Text
