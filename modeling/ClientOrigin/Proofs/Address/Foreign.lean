import ClientOrigin.Proofs.Address.RoundTrip

/-!
# Texts that are no addresses

The readers of addresses read digits, colons and dots, and leave every other character behind in
the rest.  So a text with another character is no address (`ofText?_eq_none_of_mem`).
-/

namespace ClientOrigin.Address

open Text

/-- The character stands in no address. -/
structure IsForeign (c : Char) : Prop where
  noDigit : isDigitOf 16 c = false
  noColon : c ≠ ':'
  noDot : c ≠ '.'

section Foreign

variable {c : Char} (foreign : IsForeign c)

include foreign

theorem mem_of_readChar? {d : Char} {s rest : Text} (known : d = ':' ∨ d = '.')
    (found : readChar? d s = some rest) (mem : c ∈ s) : c ∈ rest := by
  cases s with
  | nil => exact absurd mem List.not_mem_nil
  | cons e s =>
      by_cases same : e = d
      · have apart : c ≠ e := by
          rw [same]
          rcases known with rfl | rfl
          · exact foreign.noColon
          · exact foreign.noDot
        simp only [readChar?, same, if_true, Option.some.injEq] at found
        rw [← found]
        exact (List.mem_cons.mp mem).resolve_left apart
      · simp [readChar?, same] at found

theorem mem_of_readNumber {base most bound value : Nat} (small : base ≤ 16) {s rest : Text}
    (found : readNumber base most bound s = some (value, rest)) (mem : c ∈ s) : c ∈ rest := by
  rw [eq_dropWhile_of_readNumber found]
  rw [← List.takeWhile_append_dropWhile (p := isDigitOf base) (l := s)] at mem
  rcases List.mem_append.mp mem with digit | later
  · have digit16 := isDigitOf_mono small (List.mem_takeWhile_imp digit)
    rw [foreign.noDigit] at digit16
    exact absurd digit16 Bool.false_ne_true
  · exact later

theorem mem_of_readOctet {spelling : Spelling} {octet : Nat} {s rest : Text}
    (found : readOctet spelling s = some (octet, rest)) (mem : c ∈ s) : c ∈ rest :=
  mem_of_readNumber foreign (by decide) (Option.ite_none_left_eq_some.mp found).2 mem

theorem mem_of_readDottedTail {spelling : Spelling} {count : Nat} {octets : List Nat}
    {s rest : Text} (found : readDottedTail spelling count s = some (octets, rest))
    (mem : c ∈ s) : c ∈ rest := by
  induction count generalizing octets s with
  | zero =>
      obtain ⟨_, rfl⟩ := Prod.mk.inj (Option.some.inj found)
      exact mem
  | succ count ih =>
      simp only [readDottedTail, Option.bind_eq_bind, Option.bind_eq_some_iff, Option.pure_def,
        Option.some.injEq, Prod.mk.injEq, Prod.exists] at found
      obtain ⟨afterDot, dot, octet, afterOctet, first, others, end', tail, _, rfl⟩ := found
      exact ih tail (mem_of_readOctet foreign first (mem_of_readChar? foreign (.inr rfl) dot mem))

theorem mem_of_readOctets {spelling : Spelling} {octets : List Nat} {s rest : Text}
    (found : readOctets spelling s = some (octets, rest)) (mem : c ∈ s) : c ∈ rest := by
  simp only [readOctets, Option.bind_eq_bind, Option.bind_eq_some_iff, Option.pure_def,
    Option.some.injEq, Prod.mk.injEq, Prod.exists] at found
  obtain ⟨octet, afterOctet, first, others, end', tail, _, rfl⟩ := found
  exact mem_of_readDottedTail foreign tail (mem_of_readOctet foreign first mem)

theorem mem_of_afterSeparator? {isFirst : Bool} {s rest : Text}
    (found : afterSeparator? isFirst s = some rest) (mem : c ∈ s) : c ∈ rest := by
  cases isFirst with
  | true =>
      obtain rfl : s = rest := Option.some.inj found
      exact mem
  | false => exact mem_of_readChar? foreign (.inl rfl) found mem

theorem mem_of_readGroups (spelling : Spelling) (most : Nat) (isFirst : Bool) {s : Text}
    (mem : c ∈ s) : c ∈ (readGroups spelling most isFirst s).2.2 := by
  induction most generalizing isFirst s with
  | zero => exact mem
  | succ most ih =>
      rw [readGroups]
      split
      · next found =>
          obtain ⟨start, after, octets⟩ :=
            Option.bind_eq_some_iff.mp (Option.ite_none_left_eq_some.mp found).2
          exact mem_of_readOctets foreign octets (mem_of_afterSeparator? foreign after mem)
      · split
        · next found =>
            obtain ⟨start, after, group⟩ := Option.bind_eq_some_iff.mp found
            exact ih false (mem_of_readNumber foreign (by decide) group
              (mem_of_afterSeparator? foreign after mem))
        · exact mem

theorem mem_of_readV4 {spelling : Spelling} {bits : BitVec 32} {s rest : Text}
    (found : readV4 spelling s = some (bits, rest)) (mem : c ∈ s) : c ∈ rest := by
  simp only [readV4, Option.bind_eq_bind, Option.bind_eq_some_iff, Option.pure_def,
    Option.some.injEq, Prod.mk.injEq, Prod.exists] at found
  obtain ⟨values, rest', octets, _, rfl⟩ := found
  exact mem_of_readOctets foreign octets mem

theorem mem_of_readV6 {spelling : Spelling} {bits : BitVec 128} {s rest : Text}
    (found : readV6 spelling s = some (bits, rest)) (mem : c ∈ s) : c ∈ rest := by
  have front := mem_of_readGroups foreign spelling 8 true mem
  unfold readV6 at found
  dsimp only at found
  split at found
  · obtain ⟨_, rfl⟩ := Prod.mk.inj (Option.some.inj found)
    exact front
  · rw [Option.ite_none_left_eq_some] at found
    simp only [Option.bind_eq_bind, Option.bind_eq_some_iff, Option.pure_def, Option.some.injEq,
      Prod.mk.injEq] at found
    obtain ⟨_, one, first, two, second, _, rfl⟩ := found
    exact mem_of_readGroups foreign spelling _ true (mem_of_readChar? foreign (.inl rfl) second
      (mem_of_readChar? foreign (.inl rfl) first front))

/-- A text with a character that stands in no address writes none. -/
theorem ofText?_eq_none_of_mem {s : Text} (mem : c ∈ s) : ofText? s = none := by
  have left : ∀ a rest, read s = some (a, rest) → c ∈ rest := by
    intro a rest found
    unfold read at found
    split at found
    · next bits other v4 =>
        obtain ⟨_, rfl⟩ := Prod.mk.inj (Option.some.inj found)
        exact mem_of_readV4 foreign v4 mem
    · obtain ⟨⟨bits, other⟩, v6, result⟩ := Option.map_eq_some_iff.mp found
      obtain ⟨_, rfl⟩ := Prod.mk.inj result
      exact mem_of_readV6 foreign v6 mem
  unfold ofText? whole
  split
  · next a found => exact absurd (left a [] found) List.not_mem_nil
  · rfl

end Foreign

end ClientOrigin.Address
