import ClientOrigin.Proofs.Address.Unique
import ClientOrigin.Proofs.Forwarded.Leftmost

/-!
# Where a dotted literal ends

The scanner takes at most three digits for a group and does not look behind the last group.  So
it takes the last number of a dotted literal as a whole exactly if that has at most three digits,
and the first three digits of a longer one (`AreGroups.written`).  An address that a value names in
an attribute therefore stands there in full unless its last octet has three digits
(`candidates_complete`); where it has, the number may go on behind it (`attribute?_cut`).
-/

namespace ClientOrigin.Forwarded

open Text Address

/-! ## Numbers -/

/-- A dotted literal as it is written: three groups and a number of any length, with something
behind it that does not go on with a digit. -/
structure Written (text : Text) (groups : List Text) (number behind : Text) : Prop where
  text_eq : text = joined ['.'] (groups ++ [number]) ++ behind
  three : groups.length = 3
  each : ∀ group ∈ groups, IsGroup group
  digits : ∀ c ∈ number, isDigitOf 10 c = true
  some : number ≠ []
  ends : NoDigit 10 behind

/-- The last of the groups is the whole of its number, or the first three digits of it. -/
theorem AreGroups.written {groups : List Text} {rest : Text} (four : groups.length = 4)
    (h : AreGroups groups rest) :
    ∃ front number behind, Written (joined ['.'] groups ++ rest) front number behind ∧
      groups = front ++ [number.take 3] ∧ (NoDigit 10 rest ↔ number.length ≤ 3) := by
  rcases List.eq_nil_or_concat groups with rfl | ⟨front, last, rfl⟩
  · exact absurd four (by simp)
  · rw [List.concat_eq_append] at four h ⊢
    let more := rest.takeWhile (isDigitOf 10)
    let behind := rest.dropWhile (isDigitOf 10)
    have whole : rest = more ++ behind := List.takeWhile_append_dropWhile.symm
    have group : IsGroup last := h.each last (by simp)
    have greedy : Greedy last rest := h.greedy last (by simp)
    have taken : (last ++ more).take 3 = last := by
      rcases greedy with three | stops
      · rw [← three, List.take_left]
      · have none : more = [] := noDigit_iff_takeWhile.mp stops
        rw [none, List.append_nil, List.take_of_length_le group.short]
    have complete : NoDigit 10 rest ↔ (last ++ more).length ≤ 3 := by
      rw [noDigit_iff_takeWhile, List.length_append]
      constructor
      · intro none
        have short := group.short
        simp [more, none, short]
      · intro short
        rcases greedy with three | stops
        · show more = []
          exact List.length_eq_zero_iff.mp (by omega)
        · exact noDigit_iff_takeWhile.mp stops
    have written : Written (joined ['.'] (front ++ [last]) ++ rest) front (last ++ more) behind :=
      { text_eq := by
          rw [joined_concat_append, List.append_assoc, ← whole]
        three := by
          rw [List.length_append, List.length_singleton] at four
          omega
        each := fun group mem => h.each group (List.mem_append_left _ mem)
        digits := by
          intro c mem
          rcases List.mem_append.mp mem with own | further
          · exact group.digits c own
          · exact List.mem_takeWhile_imp further
        some := by
          simp [group.some]
        ends := noDigit_dropWhile 10 rest }
    exact ⟨front, last ++ more, behind, written, by rw [taken], complete⟩

theorem isV6Char_dot : isV6Char '.' = false := by decide

/-- A literal with a dot was taken from groups. -/
theorem BeginsWith.exists_written {text literal rest : Text} (h : BeginsWith text literal rest)
    (dot : '.' ∈ literal) :
    ∃ groups number behind, Written (literal ++ rest) groups number behind ∧
      literal = joined ['.'] (groups ++ [number.take 3]) ∧
      (NoDigit 10 rest ↔ number.length ≤ 3) := by
  cases h with
  | bracketed some chars =>
      have wrong := chars '.' dot
      rw [isV6Char_dot] at wrong
      cases wrong
  | dotted four taken =>
      obtain ⟨front, number, behind, written, rfl, complete⟩ := taken.written four
      exact ⟨front, number, behind, written, rfl, complete⟩

/-! ## Addresses -/

theorem dot_not_mem_of_digits {digits : Text} (all : ∀ c ∈ digits, isDigitOf 10 c = true) :
    '.' ∉ digits := by
  intro mem
  exact absurd (all '.' mem) (by decide)

theorem dot_not_mem_decimal (value : Nat) : '.' ∉ decimal value :=
  dot_not_mem_of_digits (isDigitOf_of_mem_numeral (by decide) (by decide) value)

theorem dot_mem_printV4 (bits : BitVec 32) : '.' ∈ printV4 bits := by
  obtain ⟨first, others, _, length, text⟩ := printV4_eq bits
  match others, length with
  | second :: others, _ => simp [text, dottedTail]

/-- If a number is cut to the text of an address, the last octet of that has three digits. -/
theorem le_last_octet {bits : BitVec 32} {text behind : Text} {groups : List Text} {number : Text}
    (written : Written text groups number behind)
    (literal : printV4 bits = joined ['.'] (groups ++ [number.take 3]))
    (long : 3 < number.length) : ∃ octet ∈ (octets bits).getLast?, 100 ≤ octet := by
  have digits : ∀ group ∈ groups ++ [number.take 3], '.' ∉ group := by
    intro group mem
    rcases List.mem_append.mp mem with front | last
    · exact dot_not_mem_of_digits (written.each group front).digits
    · rw [List.mem_singleton.mp last]
      exact dot_not_mem_of_digits fun c mem => written.digits c (List.mem_of_mem_take mem)
  have octets_some : (octets bits).map decimal ≠ [] := by
    intro none
    have four := length_octets bits
    rw [List.map_eq_nil_iff.mp none] at four
    cases four
  have octets_digits : ∀ numeral ∈ (octets bits).map decimal, '.' ∉ numeral := by
    intro numeral mem
    obtain ⟨octet, _, rfl⟩ := List.mem_map.mp mem
    exact dot_not_mem_decimal octet
  -- both are cut at the same dots
  have same : (octets bits).map decimal = groups ++ [number.take 3] := by
    have cut := congrArg (pieces '.') literal
    rw [pieces_joined (by simp) digits] at cut
    exact (pieces_joined octets_some octets_digits).symm.trans cut
  have last := congrArg List.getLast? same
  rw [List.getLast?_map, List.getLast?_concat, Option.map_eq_some_iff] at last
  obtain ⟨octet, mem, numeral⟩ := last
  refine ⟨octet, mem, Nat.le_of_not_lt fun small => ?_⟩
  have short : (decimal octet).length ≤ 2 := length_numeral_le (by decide) (by decide) small
  rw [numeral, List.length_take] at short
  omega

/-- **Where a dotted literal ends.**  A dotted literal that the scanner takes from a segment ends
with its number exactly if that has at most three digits, and otherwise is cut behind the third; the
segment then names the address that is left, if it is one.  So an IPv4 address that a value names
is a whole segment, or stands in the leftmost attribute of one, complete unless its last octet has
three digits. -/
theorem candidates_complete (text : Text) :
    (∀ literal, attribute? text = some literal → '.' ∈ literal →
      ∃ p rest groups number behind, Leftmost text p literal rest ∧
        Written (literal ++ rest) groups number behind ∧
        literal = joined ['.'] (groups ++ [number.take 3]) ∧
        (NoDigit 10 rest ↔ number.length ≤ 3) ∧
        ∀ bits, segmentAddress? text = some (.v4 bits) ↔ literal = printV4 bits) ∧
    (∀ bits, .v4 bits ∈ candidates text → ∃ segment ∈ segments text,
      (attribute? segment = none ∧ segment = printV4 bits) ∨
      ∃ p rest, Leftmost segment p (printV4 bits) rest ∧
        (NoDigit 10 rest ∨ ∃ octet ∈ (octets bits).getLast?, 100 ≤ octet)) := by
  constructor
  · intro literal found dot
    obtain ⟨p, rest, first⟩ := attribute?_eq_some_iff.mp found
    obtain ⟨after, marker, quoted, text, offered, shape⟩ := first.stands
    obtain ⟨groups, number, behind, written, cut, complete⟩ := shape.exists_written dot
    refine ⟨p, rest, groups, number, behind, first, written, cut, complete, fun bits => ?_⟩
    unfold segmentAddress?
    rw [found]
    exact ofText?_eq_some_v4_iff
  · intro bits named
    obtain ⟨segment, mem, address⟩ := List.mem_filterMap.mp named
    refine ⟨segment, mem, ?_⟩
    unfold segmentAddress? at address
    cases found : attribute? segment with
    | none =>
        rw [found] at address
        exact .inl ⟨rfl, ofText?_eq_some_v4_iff.mp address⟩
    | some literal =>
        rw [found] at address
        obtain rfl := ofText?_eq_some_v4_iff.mp address
        obtain ⟨p, rest, first⟩ := attribute?_eq_some_iff.mp found
        obtain ⟨after, marker, quoted, text, offered, shape⟩ := first.stands
        obtain ⟨groups, number, behind, written, cut, complete⟩ :=
          shape.exists_written (dot_mem_printV4 bits)
        refine .inr ⟨p, rest, first, ?_⟩
        by_cases short : number.length ≤ 3
        · exact .inl (complete.mpr short)
        · exact .inr (le_last_octet written cut (by omega))

/-- An address with a port behind it stands there in full. -/
theorem candidates_complete_withPort :
    ∃ segment ∈ segments "For=192.0.2.7:80;by=proxy".toList, ∃ p rest,
      Leftmost segment p (printV4 0xC0000207#32) rest ∧ NoDigit 10 rest := by
  have small : ¬ ∃ octet ∈ (octets 0xC0000207#32).getLast?, 100 ≤ octet := by decide
  have noBare : ∀ segment ∈ segments "For=192.0.2.7:80;by=proxy".toList,
      attribute? segment ≠ none := by decide
  obtain ⟨segment, mem, named⟩ :=
    (candidates_complete "For=192.0.2.7:80;by=proxy".toList).2 0xC0000207#32 (by decide)
  rcases named with ⟨none, _⟩ | ⟨p, rest, first, complete⟩
  · exact absurd none (noBare segment mem)
  · exact ⟨segment, mem, p, rest, first, complete.resolve_right small⟩

/-- A number of four digits is cut: the segment names an address that does not stand in it. -/
theorem attribute?_cut :
    Leftmost "for=1.2.3.1234".toList 0 "1.2.3.123".toList ['4'] ∧ ¬ NoDigit 10 ['4'] ∧
      candidates "for=1.2.3.1234".toList = [.v4 0x0102037B#32] := by
  have marker : MarkerAt "for=1.2.3.1234".toList 0 "1.2.3.1234".toList :=
    ⟨⟨utf8 "1.2.3.1234".toList, by decide⟩, by decide, .inl rfl⟩
  have groups : AreGroups ["1".toList, "2".toList, "3".toList, "123".toList] ['4'] :=
    { each := by
        intro group mem
        simp only [List.mem_cons, List.not_mem_nil, or_false] at mem
        rcases mem with rfl | rfl | rfl | rfl <;>
          exact ⟨List.all_eq_true.mp (by decide), by decide, by decide⟩
      greedy := by
        rintro last same
        obtain rfl : "123".toList = last := Option.some.inj same
        exact .inl rfl }
  have offered : Offers "1.2.3.1234".toList "1.2.3.123".toList ['4'] :=
    ⟨false, "1.2.3.1234".toList, rfl, .dotted rfl groups⟩
  have goesOn : ¬ NoDigit 10 ['4'] := fun stops => absurd (stops '4' rfl) (by decide)
  exact ⟨⟨⟨_, marker, offered⟩, fun q before => absurd before (Nat.not_lt_zero q)⟩, goesOn,
    by decide⟩

end ClientOrigin.Forwarded
