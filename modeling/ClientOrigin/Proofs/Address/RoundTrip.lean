import ClientOrigin.Proofs.Address.Canonical
import ClientOrigin.Proofs.Address.Literal
import Mathlib.Data.Bool.AllAny

/-!
# Addresses read back

The readers of addresses and their printers were written on their own.  They agree: the text of
an address is read as that address, in both spellings and whatever stands behind it, unless that
goes on like an address.

* `exists_literal_printV6` — an IPv6 address is printed as one of its literals: eight groups, a gap
  for zeros, or the dotted end of IPv4-mapped ones;
* `ofText?_print` — addresses of either family as whole texts.
-/

namespace ClientOrigin.Address

open Text

/-! ## Gaps -/

theorem take_eq_replicate {values : List Nat} {count : Nat} (h : count ≤ leadingZeros values) :
    values.take count = List.replicate count 0 := by
  induction values generalizing count with
  | nil =>
      obtain rfl : count = 0 := by simpa [leadingZeros] using h
      rfl
  | cons value values ih =>
      cases count with
      | zero => rfl
      | succ count =>
          by_cases zero : value = 0
          · subst zero
            have fewer : count ≤ leadingZeros values := by
              simpa [leadingZeros] using h
            rw [List.take_succ_cons, ih fewer]
            rfl
          · simp [leadingZeros, zero] at h

theorem zeroRun_le (values : List Nat) :
    (zeroRun values).2 ≤ leadingZeros (values.drop (zeroRun values).1) := by
  unfold zeroRun
  apply List.foldlRecOn
    (motive := fun best : Nat × Nat => best.2 ≤ leadingZeros (values.drop best.1))
  · exact Nat.zero_le _
  · intro best run i _
    split
    · exact Nat.le_refl _
    · exact run

/-- What the gap of a printed address leaves out are zeros. -/
theorem zeroRun_split (values : List Nat) :
    values.take (zeroRun values).1 ++ List.replicate (zeroRun values).2 0 ++
      values.drop ((zeroRun values).1 + (zeroRun values).2) = values := by
  have zeros := take_eq_replicate (zeroRun_le values)
  rw [← zeros, List.append_assoc, ← List.drop_drop, List.take_append_drop,
    List.take_append_drop]

/-! ## Literals -/

/-- Printed groups are a row. -/
theorem exists_row_printGroups {values : List Nat} (small : ∀ value ∈ values, value < 65536) :
    ∃ r : Row, r.text = printGroups values ∧ r.values = values ∧ r.isDotted = false := by
  have items : ∃ r : Row, r.items = values.map (numeral 16) ∧ r.values = values ∧
      r.isDotted = false := by
    induction values with
    | nil => exact ⟨.nil, rfl, rfl, rfl⟩
    | cons value values ih =>
        obtain ⟨rest, items, same, plain⟩ :=
          ih fun other mem => small other (List.mem_cons_of_mem value mem)
        have below : value < 65536 := small value List.mem_cons_self
        let group : Group :=
          ⟨.ofValue (by decide) (by decide) below, length_numeral_le (by decide) (by decide) below⟩
        refine ⟨.cons group rest, ?_, ?_, plain⟩
        · rw [List.map_cons, ← items]
          rfl
        · rw [Row.values, same]
          exact congrArg (· :: values) (Numeral.value_ofValue (by decide) (by decide) below)
  obtain ⟨r, items, same, plain⟩ := items
  refine ⟨r, ?_, same, plain⟩
  rw [Row.text, items]
  rfl

theorem exists_literal_printPlainV6 {values : List Nat} (length : values.length = 8)
    (small : ∀ value ∈ values, value < 65536) :
    ∃ l : V6Literal, l.text = printPlainV6 values ∧ l.values = values := by
  unfold printPlainV6
  dsimp only
  by_cases gap : 1 < (zeroRun values).2
  · have split := zeroRun_split values
    have sizes := congrArg List.length split
    rw [List.length_append, List.length_append, List.length_replicate, length] at sizes
    obtain ⟨front, frontText, frontValues, plain⟩ :=
      exists_row_printGroups fun value mem => small value (List.mem_of_mem_take mem)
    obtain ⟨back, backText, backValues, _⟩ :=
      exists_row_printGroups fun value mem => small value (List.mem_of_mem_drop mem)
    rw [← frontValues, ← backValues] at sizes
    refine ⟨.gap front back plain (by omega), ?_, ?_⟩
    · rw [if_pos gap, V6Literal.text, frontText, backText]
    · have zeros : 8 - front.values.length - back.values.length = (zeroRun values).2 := by omega
      rw [V6Literal.values, zeros, frontValues, backValues, split]
  · obtain ⟨row, text, same, _⟩ := exists_row_printGroups small
    refine ⟨.full row (by rw [same, length]), ?_, same⟩
    rw [if_neg gap, V6Literal.text, text]

/-- The dotted end of an IPv4-mapped address. -/
theorem ofGroups_mapped (bits : BitVec 32) :
    ofGroups ([0, 0, 0, 0, 0, 65535] ++ parts 65536 2 bits.toNat) = mappedForm bits := by
  have small := bits.isLt
  have whole : ofParts 65536 ([0, 0, 0, 0, 0, 65535] ++ parts 65536 2 bits.toNat) =
      0xFFFF <<< 32 + bits.toNat := by
    simp only [parts, ofParts, List.nil_append, List.cons_append, List.foldl_cons, List.foldl_nil,
      Nat.shiftLeft_eq]
    omega
  rw [ofGroups, mappedForm, whole]

/-- An IPv6 address is printed as one of its literals. -/
theorem exists_literal_printV6 (bits : BitVec 128) :
    ∃ l : V6Literal, l.text = printV6 bits ∧ l.bits = bits := by
  unfold printV6
  split
  · next inner found =>
      rw [(mapped?_eq_some_iff bits inner).mp found]
      have hex : ∀ c ∈ ['f', 'f', 'f', 'f'], isDigitOf 16 c = true :=
        List.all_eq_true.mp (by decide)
      let ones : Group := ⟨⟨['f', 'f', 'f', 'f'], by simp, hex, by decide⟩, Nat.le_refl 4⟩
      have few : Row.nil.values.length + (Row.cons ones (.dotted inner)).values.length < 8 := by
        simp [Row.values, length_parts]
      exact ⟨.gap .nil (.cons ones (.dotted inner)) rfl few, rfl, ofGroups_mapped inner⟩
  · obtain ⟨l, text, values⟩ := exists_literal_printPlainV6 (length_groups bits) (group_lt bits)
    exact ⟨l, text, by rw [V6Literal.bits, values, ofGroups_groups]⟩

/-- The text of an IPv6 address is read as that address. -/
theorem readV6_printV6 (spelling : Spelling) (bits : BitVec 128) {rest : Text}
    (ends : EndsGroups rest) : readV6 spelling (printV6 bits ++ rest) = some (bits, rest) := by
  obtain ⟨l, text, same⟩ := exists_literal_printV6 bits
  rw [← text, l.read spelling ends, same]

/-! ## Both families -/

/-- The characters of printed addresses. -/
def literalChars : List Char := "0123456789abcdef:.".toList

theorem digitChar_mem_literalChars : ∀ digit < 16, Nat.digitChar digit ∈ literalChars := by
  decide

theorem mem_literalChars_of_mem_numeral {base value : Nat} (many : 1 < base) (small : base ≤ 16)
    {c : Char} (mem : c ∈ numeral base value) : c ∈ literalChars := by
  obtain ⟨digit, bound, rfl⟩ := mem_numeral many mem
  exact digitChar_mem_literalChars digit (by omega)

theorem mem_printV4 (bits : BitVec 32) : ∀ c ∈ printV4 bits, c ∈ literalChars := by
  obtain ⟨first, others, _, _, text⟩ := printV4_eq bits
  intro c mem
  rw [text] at mem
  simp only [dottedTail, List.mem_append, List.mem_flatMap, List.mem_map, List.mem_cons] at mem
  rcases mem with front | ⟨_, ⟨octet, _, rfl⟩, rfl | digit⟩
  · exact mem_literalChars_of_mem_numeral (by decide) (by decide) front
  · decide
  · exact mem_literalChars_of_mem_numeral (by decide) (by decide) digit

theorem mem_printGroups (values : List Nat) :
    ∀ c ∈ printGroups values, c ∈ literalChars ∧ c ≠ '.' := by
  cases values with
  | nil => simp [printGroups, joined]
  | cons first others =>
      have digits : ∀ group, ∀ c ∈ numeral 16 group, c ∈ literalChars ∧ c ≠ '.' := by
        intro group c mem
        refine ⟨mem_literalChars_of_mem_numeral (by decide) (by decide) mem, ?_⟩
        rintro rfl
        have digit := isDigitOf_of_mem_numeral (by decide) (by decide : 16 ≤ 16) group '.' mem
        exact absurd digit (by decide)
      intro c mem
      rw [printGroups, List.map_cons, joined_cons_eq_flatMap] at mem
      simp only [List.mem_append, List.mem_flatMap, List.mem_map, List.mem_cons] at mem
      rcases mem with front | ⟨_, ⟨group, _, rfl⟩, rfl | digit⟩
      · exact digits first c front
      · decide
      · exact digits group c digit

theorem mem_printPlainV6 (values : List Nat) :
    ∀ c ∈ printPlainV6 values, c ∈ literalChars ∧ c ≠ '.' := by
  unfold printPlainV6
  dsimp only
  split
  · intro c mem
    simp only [List.mem_append, List.mem_cons, List.not_mem_nil, or_false] at mem
    rcases mem with (front | rfl | rfl) | back
    · exact mem_printGroups _ c front
    · decide
    · decide
    · exact mem_printGroups _ c back
  · exact mem_printGroups values

theorem mem_print (a : Address) : ∀ c ∈ a.print, c ∈ literalChars := by
  intro c mem
  cases a with
  | v4 bits => exact mem_printV4 bits c mem
  | v6 bits =>
      change c ∈ printV6 bits at mem
      unfold printV6 at mem
      split at mem
      · next inner _ =>
          have prefixed : ∀ d ∈ [':', ':', 'f', 'f', 'f', 'f', ':'], d ∈ literalChars :=
            List.all_iff_forall_prop.mp (by decide)
          rcases List.mem_append.mp mem with front | back
          · exact prefixed c front
          · exact mem_printV4 inner c back
      · exact (mem_printPlainV6 _ c mem).1

theorem readOctets_printV6 (spelling : Spelling) (bits : BitVec 128) {rest : Text}
    (ends : EndsGroups rest) : readOctets spelling (printV6 bits ++ rest) = none := by
  unfold printV6
  split
  · exact readOctets_of_noDigit spelling (noDigit_cons (by decide) _)
  · apply readOctets_append spelling _ ends.noDot ends.noDigit
    intro dot
    exact (mem_printPlainV6 _ '.' dot).2 rfl

/-- The text of an address is read as that address. -/
theorem read_print (a : Address) {rest : Text} (ends : EndsGroups rest) :
    read (a.print ++ rest) = some (a, rest) := by
  cases a with
  | v4 bits =>
      have v4 := readV4_printV4 .strict bits (ends.noDigit.mono (by decide : 10 ≤ 16))
      simp [read, print, v4]
  | v6 bits =>
      have noV4 : readV4 .strict (printV6 bits ++ rest) = none := by
        simp [readV4, readOctets_printV6 .strict bits ends]
      simp [read, print, noV4, readV6_printV6 .strict bits ends]

/-- The text of an address writes that address. -/
theorem ofText?_print (a : Address) : ofText? a.print = some a := by
  have whole := read_print a endsGroups_nil
  rw [List.append_nil] at whole
  simp [ofText?, Address.whole, whole]

end ClientOrigin.Address
