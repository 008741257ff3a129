import ClientOrigin.Address.Printer
import ClientOrigin.Address.Reader
import ClientOrigin.Proofs.Text.Digits

/-!
# Dotted IPv4 addresses

An address is the number that its parts write, octets or groups.  In a text the parts are numerals,
and those of an IPv4 address have dots between them.

* `ofParts_parts` — the parts of an address make it up again;
* `Numeral` — the digits of a number, read as far as digits go (`Numeral.read`);
* `readV4_printV4` — the text of an IPv4 address is read as that address;
* `readOctets_append` — a text without a dot is none, unless a dot follows it.
-/

namespace ClientOrigin.Address

open Text

/-! ## Parts -/

theorem length_parts (base count value : Nat) : (parts base count value).length = count := by
  induction count generalizing value with
  | zero => rfl
  | succ count ih => simp [parts, ih]

theorem lt_of_mem_parts {base : Nat} (positive : 0 < base) (count value : Nat) :
    ∀ part ∈ parts base count value, part < base := by
  induction count generalizing value with
  | zero => simp [parts]
  | succ count ih =>
      intro part mem
      rcases List.mem_append.mp mem with front | last
      · exact ih (value / base) part front
      · rw [List.mem_singleton.mp last]
        exact Nat.mod_lt value positive

theorem ofParts_parts {base : Nat} (count : Nat) {value : Nat} (h : value < base ^ count) :
    ofParts base (parts base count value) = value := by
  induction count generalizing value with
  | zero =>
      have zero : value = 0 := by simpa using h
      simp [parts, ofParts, zero]
  | succ count ih =>
      have front : value / base < base ^ count := Nat.div_lt_of_lt_mul (by
        rwa [Nat.pow_succ, Nat.mul_comm] at h)
      have written := ih front
      unfold ofParts at written ⊢
      rw [parts, List.foldl_append, written]
      exact Nat.div_add_mod' value base

theorem length_octets (bits : BitVec 32) : (octets bits).length = 4 := length_parts _ _ _

theorem length_groups (bits : BitVec 128) : (groups bits).length = 8 := length_parts _ _ _

theorem octet_lt (bits : BitVec 32) : ∀ octet ∈ octets bits, octet < 256 :=
  lt_of_mem_parts (by decide) 4 bits.toNat

theorem group_lt (bits : BitVec 128) : ∀ group ∈ groups bits, group < 65536 :=
  lt_of_mem_parts (by decide) 8 bits.toNat

theorem ofOctets_octets (bits : BitVec 32) : ofOctets (octets bits) = bits := by
  unfold ofOctets octets
  rw [ofParts_parts 4 bits.isLt, BitVec.ofNat_toNat, BitVec.setWidth_eq]

theorem ofGroups_groups (bits : BitVec 128) : ofGroups (groups bits) = bits := by
  unfold ofGroups groups
  rw [ofParts_parts 8 bits.isLt, BitVec.ofNat_toNat, BitVec.setWidth_eq]

/-! ## Numbers -/

/-- A number as it is written: one digit of the base at least, and a value below the bound. -/
structure Numeral (base bound : Nat) where
  digits : Text
  nonempty : digits ≠ []
  all : ∀ c ∈ digits, isDigitOf base c = true
  below : valueOf base digits < bound

namespace Numeral

variable {base bound : Nat}

/-- The number that is written. -/
def value (n : Numeral base bound) : Nat := valueOf base n.digits

/-- The numeral with the fewest digits. -/
def ofValue (many : 1 < base) (small : base ≤ 16) {value : Nat} (h : value < bound) :
    Numeral base bound where
  digits := numeral base value
  nonempty := numeral_ne_nil value
  all := isDigitOf_of_mem_numeral many small value
  below := by
    rw [valueOf_numeral many small]
    exact h

theorem value_ofValue (many : 1 < base) (small : base ≤ 16) {value : Nat} (h : value < bound) :
    (ofValue many small h).value = value :=
  valueOf_numeral many small value

/-- A numeral is read up to the first character that is no digit. -/
theorem read (n : Numeral base bound) {most : Nat} (short : n.digits.length ≤ most) {rest : Text}
    (stops : NoDigit base rest) :
    readNumber base most bound (n.digits ++ rest) = some (n.value, rest) := by
  unfold readNumber
  rw [spanDigits_append n.all stops]
  exact if_pos ⟨n.nonempty, short, n.below⟩

end Numeral

theorem eq_cons_of_readChar? {c : Char} {s rest : Text} (found : readChar? c s = some rest) :
    s = c :: rest := by
  cases s with
  | nil => exact nomatch found
  | cons d s =>
      obtain ⟨same, left⟩ := Option.ite_none_right_eq_some.mp found
      rw [same, Option.some.inj left]

theorem readNumber_eq_none {base : Nat} (most bound : Nat) {s : Text} (h : NoDigit base s) :
    readNumber base most bound s = none := by
  have none : ∀ c ∈ ([] : Text), isDigitOf base c = true := by simp
  have span : spanDigits base s = ([], s) := spanDigits_append none h
  simp [readNumber, span]

theorem joined_cons_eq_flatMap (sep : Char) (first : Text) (others : List Text) :
    joined [sep] (first :: others) = first ++ others.flatMap (sep :: ·) := by
  induction others generalizing first with
  | nil => simp [joined]
  | cons next others ih =>
      show first ++ [sep] ++ joined [sep] (next :: others) = _
      rw [ih next]
      simp

/-! ## IPv4 -/

theorem readOctet_decimal (spelling : Spelling) {octet : Nat} (h : octet < 256) {rest : Text}
    (stops : NoDigit 10 rest) :
    readOctet spelling (decimal octet ++ rest) = some (octet, rest) := by
  have number : readNumber 10 3 256 (decimal octet ++ rest) = some (octet, rest) := by
    have short : (decimal octet).length ≤ 3 :=
      length_numeral_le (by decide) (by decide) (Nat.lt_of_lt_of_le h (by decide))
    have read := (Numeral.ofValue (by decide) (by decide) h).read short stops
    rw [Numeral.value_ofValue] at read
    exact read
  unfold readOctet
  rw [number, decimal, spanDigits_numeral (by decide) (by decide) octet stops]
  dsimp only
  split
  · next padded =>
      -- a numeral of two digits or more does not begin with a zero
      exact absurd (numeral_eq_zero_cons (by decide) (by decide) padded).2 (by simp)
  · simp

/-- Octets that all have a dot in front. -/
def dottedTail (values : List Nat) : Text := (values.map decimal).flatMap ('.' :: ·)

theorem noDigit_dottedTail (values : List Nat) {rest : Text} (stops : NoDigit 10 rest) :
    NoDigit 10 (dottedTail values ++ rest) := by
  cases values with
  | nil => exact stops
  | cons value values => exact noDigit_cons (by decide) _

theorem readDottedTail_dottedTail (spelling : Spelling) {values : List Nat}
    (small : ∀ value ∈ values, value < 256) {rest : Text} (stops : NoDigit 10 rest) :
    readDottedTail spelling values.length (dottedTail values ++ rest) = some (values, rest) := by
  induction values with
  | nil => rfl
  | cons value values ih =>
      have text : dottedTail (value :: values) ++ rest =
          '.' :: (decimal value ++ (dottedTail values ++ rest)) := by
        simp [dottedTail]
      have others := ih fun other mem => small other (List.mem_cons_of_mem value mem)
      have first := readOctet_decimal spelling (small value List.mem_cons_self)
        (noDigit_dottedTail values stops)
      rw [text, List.length_cons, readDottedTail, readChar?, if_pos rfl]
      simp [first, others]

theorem printV4_eq (bits : BitVec 32) :
    ∃ first others, octets bits = first :: others ∧ others.length = 3 ∧
      printV4 bits = decimal first ++ dottedTail others := by
  have length := length_octets bits
  unfold printV4 dottedTail
  cases values : octets bits with
  | nil => simp [values] at length
  | cons first others =>
      rw [values, List.length_cons] at length
      refine ⟨first, others, rfl, by omega, ?_⟩
      rw [List.map_cons, joined_cons_eq_flatMap]

theorem readOctets_printV4 (spelling : Spelling) (bits : BitVec 32) {rest : Text}
    (stops : NoDigit 10 rest) :
    readOctets spelling (printV4 bits ++ rest) = some (octets bits, rest) := by
  obtain ⟨first, others, values, length, text⟩ := printV4_eq bits
  have small := octet_lt bits
  rw [values] at small ⊢
  have tail := readDottedTail_dottedTail spelling
    (fun other mem => small other (List.mem_cons_of_mem first mem)) stops
  rw [length] at tail
  unfold readOctets
  rw [text, List.append_assoc, readOctet_decimal spelling (small first List.mem_cons_self)
    (noDigit_dottedTail others stops)]
  simp [tail]

/-- The text of an IPv4 address is read as that address. -/
theorem readV4_printV4 (spelling : Spelling) (bits : BitVec 32) {rest : Text}
    (stops : NoDigit 10 rest) :
    readV4 spelling (printV4 bits ++ rest) = some (bits, rest) := by
  unfold readV4
  rw [readOctets_printV4 spelling bits stops]
  simp [ofOctets_octets]

theorem eq_dropWhile_of_readNumber {base most bound value : Nat} {s rest : Text}
    (found : readNumber base most bound s = some (value, rest)) :
    rest = s.dropWhile (isDigitOf base) := by
  unfold readNumber spanDigits at found
  dsimp only at found
  split at found
  · exact (congrArg Prod.snd (Option.some.inj found)).symm
  · simp at found

theorem readOctets_eq_none (spelling : Spelling) {s : Text}
    (h : ∀ c ∈ (s.dropWhile (isDigitOf 10)).head?, c ≠ '.') : readOctets spelling s = none := by
  unfold readOctets
  cases found : readOctet spelling s with
  | none => rfl
  | some result =>
      obtain ⟨octet, rest⟩ := result
      have number : readNumber 10 3 256 s = some (octet, rest) :=
        (Option.ite_none_left_eq_some.mp found).2
      rw [← eq_dropWhile_of_readNumber number] at h
      have stuck : readChar? '.' rest = none := by
        cases rest with
        | nil => rfl
        | cons c rest => simp [readChar?, h c rfl]
      simp [readDottedTail, stuck]

theorem readOctets_of_noDigit (spelling : Spelling) {s : Text} (h : NoDigit 16 s) :
    readOctets spelling s = none := by
  simp [readOctets, readOctet, readNumber_eq_none 3 256 (h.mono (by decide : 10 ≤ 16))]

theorem readOctets_append (spelling : Spelling) {s rest : Text} (fresh : '.' ∉ s)
    (noDot : ∀ c ∈ rest.head?, c ≠ '.') (stops : NoDigit 16 rest) :
    readOctets spelling (s ++ rest) = none := by
  apply readOctets_eq_none
  intro c first
  rw [List.dropWhile_append] at first
  split at first
  · cases rest with
    | nil => simp at first
    | cons d rest =>
        have kept : (d :: rest).dropWhile (isDigitOf 10) = d :: rest := by
          simp [(stops.mono (by decide : 10 ≤ 16)) d rfl]
        rw [kept] at first
        exact noDot c first
  · next left =>
      -- the first character that is left belongs to the text without a dot
      cases kept : s.dropWhile (isDigitOf 10) with
      | nil => simp [kept] at left
      | cons d others =>
          rw [kept] at first
          obtain rfl : d = c := Option.some.inj first
          have mem : d ∈ s.dropWhile (isDigitOf 10) := by simp [kept]
          rintro rfl
          exact fresh ((List.dropWhile_sublist _).mem mem)


end ClientOrigin.Address
