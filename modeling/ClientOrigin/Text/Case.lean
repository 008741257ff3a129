import ClientOrigin.Text.Blank
import ClientOrigin.Text.CaseTable

/-!
# Lower case

Lower-casing by the full mapping of Unicode, and the case of ASCII letters.  One character has a
form that depends on its context: a capital sigma that ends a word becomes a final sigma.
-/

namespace ClientOrigin.Text

/-- The lower-case form of an ASCII capital; other characters stay. -/
def asciiLower (c : Char) : Char := c.toLower

/-- Two texts are equal up to the case of ASCII letters. -/
def eqIgnoringAsciiCase (a b : Text) : Bool := a.map asciiLower == b.map asciiLower

/-- The character has upper, lower or title case. -/
def isCased (c : Char) : Bool := inRanges casedRanges c.toNat

/-- The character is skipped when the case context of another one is looked for. -/
def isCaseIgnorable (c : Char) : Bool := inRanges caseIgnorableRanges c.toNat

/-- The first character of the text that is not skipped has case. -/
def beginsCased (s : Text) : Bool :=
  match s.dropWhile isCaseIgnorable with
  | [] => false
  | c :: _ => isCased c

/-- The lower-case form of a character outside any context. -/
def lowerForm (c : Char) : Text :=
  if c.toNat < 0x80 then [asciiLower c]
  else if c.toNat = 0x130 then ['i', Char.ofNat 0x307]
  else
    match lowerRuns.find? fun run =>
        run.first ≤ c.toNat && c.toNat ≤ run.last && (c.toNat - run.first) % run.step == 0 with
    | some run => [Char.ofNat (c.toNat + run.offset).toNat]
    | none => [c]

/-- A capital sigma between `before` (nearest first) and `rest` ends a word. -/
def endsWord (before rest : Text) : Bool := beginsCased before && !beginsCased rest

/-- The lower-case form of a text that follows `before` (nearest character first). -/
def lowerAfter (before : Text) : Text → Text
  | [] => []
  | c :: rest =>
    let form :=
      if c = 'Σ' then [if endsWord before rest then 'ς' else 'σ'] else lowerForm c
    form ++ lowerAfter (c :: before) rest

/-- The lower-case form of a text. -/
def lower (s : Text) : Text := lowerAfter [] s

end ClientOrigin.Text
