import ClientOrigin.Forwarded.Attribute
import ClientOrigin.Proofs.Address.RoundTrip
import ClientOrigin.Proofs.Text.Cutting
import ClientOrigin.Text.Case

/-!
# The scanner of attributes

What the scanner finds in a segment that was put together.

* **occurrences** — a text without the marker has none (`occurrencesAfter_eq_nil`), and one in
  front of a character that is not in the marker hides none (`occurrencesAfter_append_cons`);
* **literals** — after the marker, printed IPv4 addresses are taken, and printed IPv6 addresses
  in brackets if they are not IPv4-mapped (`literal?_v4`, `literal?_v6`).  The dotted end of an
  IPv4-mapped one is refused (`literal?_mapped`).
-/

namespace ClientOrigin.Forwarded

open Text Address

/-! ## Occurrences -/

theorem occurrencesAfter_cons_of_none {c : Char} {s : Text} (h : after? marker (c :: s) = none)
    (before : Option Char) :
    occurrencesAfter before (c :: s) = occurrencesAfter (some c) s := by
  rw [occurrencesAfter, h]

theorem occurrencesAfter_cons_of_some {c : Char} {s after : Text}
    (h : after? marker (c :: s) = some after) (before : Option Char) :
    occurrencesAfter before (c :: s) = ⟨before, after⟩ :: occurrencesAfter (some c) s := by
  rw [occurrencesAfter, h]

theorem after?_eq_none {s : Text} (h : ¬ marker <+: s) : after? marker s = none := by
  cases found : after? marker s with
  | none => rfl
  | some rest => exact absurd ⟨rest, (after?_eq_some_iff.mp found).symm⟩ h

/-- A text without the marker has no occurrence of it. -/
theorem occurrencesAfter_eq_nil {s : Text} (fresh : ¬ marker <:+: s) (before : Option Char) :
    occurrencesAfter before s = [] := by
  induction s generalizing before with
  | nil => rfl
  | cons c s ih =>
      have none : after? marker (c :: s) = none :=
        after?_eq_none fun front => fresh front.isInfix
      rw [occurrencesAfter_cons_of_none none]
      exact ih (fun inside => fresh (inside.trans (List.suffix_cons c s).isInfix)) (some c)

/-- The marker does not reach over a character that is not in it. -/
theorem marker_prefix_of_append_cons {s t : Text} {sep : Char} (apart : sep ∉ marker)
    (front : marker <+: s ++ sep :: t) : marker <+: s := by
  have cut : s ++ [sep] <+: s ++ sep :: t := ⟨t, by simp⟩
  rcases List.prefix_or_prefix_of_prefix front cut with short | long
  · rcases List.prefix_concat_iff.mp short with whole | inside
    · exact absurd (by rw [whole]; simp) apart
    · exact inside
  · exact absurd (long.subset (by simp)) apart

/-- What stands in front of such a character hides no occurrence behind it. -/
theorem occurrencesAfter_append_cons {s : Text} (fresh : ¬ marker <:+: s) {sep : Char}
    (apart : sep ∉ marker) (t : Text) (before : Option Char) :
    occurrencesAfter before (s ++ sep :: t) = occurrencesAfter (some sep) t := by
  induction s generalizing before with
  | nil =>
      have none : after? marker (sep :: t) = none := by
        apply after?_eq_none
        intro front
        exact absurd (marker_prefix_of_append_cons (s := []) apart front) (by decide)
      exact occurrencesAfter_cons_of_none none before
  | cons c s ih =>
      have none : after? marker (c :: (s ++ sep :: t)) = none :=
        after?_eq_none fun front =>
          fresh (marker_prefix_of_append_cons (s := c :: s) apart front).isInfix
      rw [List.cons_append, occurrencesAfter_cons_of_none none]
      exact ih (fun inside => fresh (inside.trans (List.suffix_cons c s).isInfix)) (some c)

theorem occurrencesAfter_marker (before : Option Char) (after : Text) :
    occurrencesAfter before (marker ++ after) =
      ⟨before, after⟩ :: occurrencesAfter (some 'f') (marker.tail ++ after) := by
  have found : after? marker (marker ++ after) = some after := after?_eq_some_iff.mpr rfl
  exact occurrencesAfter_cons_of_some (c := 'f') found before

/-! ## Literals -/

/-- The characters of addresses and their brackets are small ASCII characters that are no white
space, no comma and not in the marker. -/
theorem hostChars_plain : ∀ c ∈ '[' :: ']' :: literalChars,
    asciiLower c = c ∧ c.toNat < 0x80 ∧ isBlank c = false ∧ c ≠ ',' ∧ c ≠ '=' :=
  List.all_iff_forall_prop.mp (by decide)

theorem literalChars_plain {c : Char} (mem : c ∈ literalChars) :
    asciiLower c = c ∧ c.toNat < 0x80 ∧ isBlank c = false ∧ c ≠ ',' ∧ c ≠ '=' :=
  hostChars_plain c (List.mem_cons_of_mem _ (List.mem_cons_of_mem _ mem))

theorem isV6Char_of_mem_literalChars : ∀ c ∈ literalChars, c ≠ '.' → isV6Char c = true :=
  List.all_iff_forall_prop.mp (by decide)

/-- An IPv6 address that is not IPv4-mapped has no dotted end. -/
theorem printV6_of_not_mapped {bits : BitVec 128} (h : mapped? bits = none) :
    ∀ c ∈ printV6 bits, c ∈ literalChars ∧ c ≠ '.' := by
  unfold printV6
  rw [h]
  exact mem_printPlainV6 (groups bits)

theorem print_ne_nil (a : Address) : a.print ≠ [] := by
  intro empty
  have read := ofText?_print a
  have none : ofText? [] = none := by decide
  rw [empty, none] at read
  exact absurd read (by simp)

theorem bracketed?_printV6 {bits : BitVec 128} (h : mapped? bits = none) (rest : Text) :
    bracketed? ('[' :: (printV6 bits ++ ']' :: rest)) = some (printV6 bits) := by
  have characters := printV6_of_not_mapped h
  have closed : ']' ∉ printV6 bits := by
    intro mem
    exact absurd (characters ']' mem).1 (by decide)
  have all : (printV6 bits).all isV6Char = true := by
    rw [List.all_eq_true]
    intro c mem
    exact isV6Char_of_mem_literalChars c (characters c mem).1 (characters c mem).2
  have some : printV6 bits ≠ [] := print_ne_nil (.v6 bits)
  simp only [bracketed?, cutFirst?_append_cons closed]
  rw [if_pos ⟨some, all⟩]

/-- The dotted end of an IPv4-mapped address is no part of a literal in brackets. -/
theorem bracketed?_mapped {bits : BitVec 128} {inner : BitVec 32} (h : mapped? bits = some inner)
    (rest : Text) : bracketed? ('[' :: (printV6 bits ++ ']' :: rest)) = none := by
  have closed : ']' ∉ printV6 bits := by
    intro mem
    exact absurd (mem_print (.v6 bits) ']' mem) (by decide)
  have dot : '.' ∈ printV6 bits := by
    obtain ⟨first, others, _, length, text⟩ := printV4_eq inner
    unfold printV6
    rw [h]
    match others, length with
    | second :: others, _ => simp [text, dottedTail]
  have refused : (printV6 bits).all isV6Char = false := by
    rw [List.all_eq_false]
    exact ⟨'.', dot, by decide⟩
  simp [bracketed?, cutFirst?_append_cons closed, refused]

theorem digitGroup_decimal {octet : Nat} (h : octet < 256) {rest : Text}
    (stops : NoDigit 10 rest) : digitGroup (decimal octet ++ rest) = decimal octet := by
  have digits : ∀ c ∈ decimal octet, isDigitOf 10 c = true :=
    isDigitOf_of_mem_numeral (by decide) (by decide) octet
  have short : (decimal octet).length ≤ 3 :=
    length_numeral_le (by decide) (by decide) (by omega : octet < 10 ^ 3)
  have ends : ∀ count, (rest.take count).takeWhile (isDigitOf 10) = [] := by
    intro count
    cases rest with
    | nil => simp
    | cons c rest =>
        cases count with
        | zero => rfl
        | succ count => simp [stops c rfl]
  unfold digitGroup
  rw [List.take_append, List.take_of_length_le short, List.takeWhile_append_of_pos digits, ends,
    List.append_nil]

theorem dottedTail?_dottedTail {values : List Nat} (small : ∀ value ∈ values, value < 256)
    {rest : Text} (stops : NoDigit 10 rest) :
    dottedTail? values.length (dottedTail values ++ rest) = some (dottedTail values) := by
  induction values with
  | nil => rfl
  | cons value values ih =>
      have text : dottedTail (value :: values) = '.' :: (decimal value ++ dottedTail values) := by
        simp [dottedTail]
      have group := digitGroup_decimal (small value List.mem_cons_self)
        (noDigit_dottedTail values stops)
      have others := ih fun other mem => small other (List.mem_cons_of_mem value mem)
      have some : decimal value ≠ [] := numeral_ne_nil value
      rw [text, List.cons_append, List.append_assoc, List.length_cons, dottedTail?]
      simp [group, some, others]

theorem dotted?_printV4 (bits : BitVec 32) {rest : Text} (stops : NoDigit 10 rest) :
    dotted? (printV4 bits ++ rest) = some (printV4 bits) := by
  obtain ⟨first, others, values, length, text⟩ := printV4_eq bits
  have small := octet_lt bits
  rw [values] at small
  have group := digitGroup_decimal (small first List.mem_cons_self)
    (noDigit_dottedTail others stops)
  have tail := dottedTail?_dottedTail
    (fun other mem => small other (List.mem_cons_of_mem first mem)) stops
  rw [length] at tail
  have some : decimal first ≠ [] := numeral_ne_nil first
  rw [text, List.append_assoc]
  simp [dotted?, group, some, tail]

/-! ## Quotes -/

/-- A quote in front of a literal, if there is one. -/
def quote (quoted : Bool) : Text := if quoted then ['"'] else []

theorem unquoted_quote (quoted : Bool) {s : Text} (h : ∀ c ∈ s.head?, c ≠ '"') :
    unquoted (quote quoted ++ s) = s := by
  cases quoted with
  | true => rfl
  | false =>
      cases s with
      | nil => rfl
      | cons c s =>
          have plain := h c rfl
          show unquoted (c :: s) = c :: s
          unfold unquoted
          split
          · simp_all
          · rfl

theorem printV4_eq_cons (bits : BitVec 32) :
    ∃ c s, printV4 bits = c :: s ∧ isDigitOf 10 c = true := by
  obtain ⟨first, others, _, _, text⟩ := printV4_eq bits
  cases digits : decimal first with
  | nil => exact absurd digits (numeral_ne_nil first)
  | cons c s =>
      have mem : c ∈ decimal first := by simp [digits]
      exact ⟨c, s ++ dottedTail others, by rw [text, digits, List.cons_append],
        isDigitOf_of_mem_numeral (by decide) (by decide) first c mem⟩

theorem literal?_v4 (quoted : Bool) (bits : BitVec 32) {rest : Text} (stops : NoDigit 10 rest) :
    literal? (quote quoted ++ (printV4 bits ++ rest)) = some (printV4 bits) := by
  have dotted := dotted?_printV4 bits stops
  obtain ⟨c, s, text, digit⟩ := printV4_eq_cons bits
  have plain : c ≠ '"' ∧ c ≠ '[' := by
    constructor
    · rintro rfl
      exact absurd digit (by decide)
    · rintro rfl
      exact absurd digit (by decide)
  have open? : bracketed? (printV4 bits ++ rest) = none := by
    rw [text]
    unfold bracketed?
    split
    · simp_all
    · rfl
  unfold literal?
  rw [unquoted_quote quoted (by simp [text, plain.1]), open?, dotted]

theorem literal?_v6 (quoted : Bool) {bits : BitVec 128} (h : mapped? bits = none)
    (rest : Text) :
    literal? (quote quoted ++ ('[' :: (printV6 bits ++ ']' :: rest))) = some (printV6 bits) := by
  unfold literal?
  rw [unquoted_quote quoted (by simp), bracketed?_printV6 h]

theorem literal?_mapped (quoted : Bool) {bits : BitVec 128} {inner : BitVec 32}
    (h : mapped? bits = some inner) (rest : Text) :
    literal? (quote quoted ++ ('[' :: (printV6 bits ++ ']' :: rest))) = none := by
  unfold literal?
  rw [unquoted_quote quoted (by simp), bracketed?_mapped h]
  rfl

end ClientOrigin.Forwarded
