import ClientOrigin.Text.Utf8

/-!
# Characters among bytes

A character of ASCII is one byte, and all bytes of any other character are above ASCII
(`utf8EncodeChar_of_ascii`, `le_of_mem_utf8EncodeChar`).  So a byte of ASCII among the bytes of a
text is a character of it, and the text can be cut there (`exists_cut_of_ascii`).  Texts with the
same bytes are the same (`utf8_injective`), and a text of ASCII is found at the start of another
one by its bytes (`utf8_prefix_iff`).
-/

namespace ClientOrigin.Text

theorem utf8_append (s t : Text) : utf8 (s ++ t) = utf8 s ++ utf8 t := List.flatMap_append

theorem utf8_cons (c : Char) (s : Text) : utf8 (c :: s) = String.utf8EncodeChar c ++ utf8 s := rfl

theorem utf8EncodeChar_of_ascii {c : Char} (h : c.toNat < 0x80) :
    String.utf8EncodeChar c = [UInt8.ofNat c.toNat] := by
  have small : c.val.toNat ≤ 127 := Nat.le_of_lt_succ h
  exact if_pos small

/-- A byte of a character beyond ASCII is no byte of ASCII. -/
theorem le_of_mem_utf8EncodeChar {c : Char} (h : 0x80 ≤ c.toNat) {b : UInt8}
    (mem : b ∈ String.utf8EncodeChar c) : 0x80 ≤ b.toNat := by
  have large : ¬ c.val.toNat ≤ 127 := Nat.not_le_of_lt h
  simp only [String.utf8EncodeChar, large, if_false] at mem
  split at mem
  · simp only [List.mem_cons, List.not_mem_nil, or_false] at mem
    rcases mem with rfl | rfl <;> simp <;> omega
  · split at mem
    · simp only [List.mem_cons, List.not_mem_nil, or_false] at mem
      rcases mem with rfl | rfl | rfl <;> simp <;> omega
    · simp only [List.mem_cons, List.not_mem_nil, or_false] at mem
      rcases mem with rfl | rfl | rfl | rfl <;> simp <;> omega

/-- The first byte of a character does not continue one. -/
theorem exists_utf8EncodeChar_eq_cons (c : Char) :
    ∃ b rest, String.utf8EncodeChar c = b :: rest ∧ (b.toNat < 0x80 ∨ 0xC0 ≤ b.toNat) := by
  by_cases ascii : c.toNat < 0x80
  · refine ⟨UInt8.ofNat c.toNat, [], utf8EncodeChar_of_ascii ascii, .inl ?_⟩
    simp
    omega
  · have large : ¬ c.val.toNat ≤ 127 := fun small => ascii (Nat.lt_succ_of_le small)
    simp only [String.utf8EncodeChar, large, if_false]
    split
    · exact ⟨_, _, rfl, .inr (by simp; omega)⟩
    · split
      · exact ⟨_, _, rfl, .inr (by simp; omega)⟩
      · exact ⟨_, _, rfl, .inr (by simp; omega)⟩

theorem utf8_eq_nil_iff {s : Text} : utf8 s = [] ↔ s = [] := by
  cases s with
  | nil => simp [utf8]
  | cons c s => simp [utf8_cons, String.utf8EncodeChar_ne_nil]

theorem utf8_injective {s t : Text} (same : utf8 s = utf8 t) : s = t := by
  have encoded : s.utf8Encode = t.utf8Encode := congrArg List.toByteArray same
  have decoded := congrArg ByteArray.utf8Decode? encoded
  rw [List.utf8Decode?_utf8Encode, List.utf8Decode?_utf8Encode] at decoded
  simpa using decoded

/-- A text of ASCII begins another one exactly if its bytes do. -/
theorem utf8_prefix_iff {word s : Text} (ascii : ∀ c ∈ word, c.toNat < 0x80) :
    utf8 word <+: utf8 s ↔ word <+: s := by
  induction word generalizing s with
  | nil => simp [utf8]
  | cons d word ih =>
      have low := ascii d List.mem_cons_self
      have later := fun t => ih (s := t) fun c mem => ascii c (List.mem_cons_of_mem d mem)
      rw [utf8_cons, utf8EncodeChar_of_ascii low, List.singleton_append]
      cases s with
      | nil => simp [utf8]
      | cons c s =>
          rw [List.cons_prefix_cons, utf8_cons]
          by_cases other : c.toNat < 0x80
          · have same : UInt8.ofNat d.toNat = UInt8.ofNat c.toNat ↔ d = c := by
              constructor
              · intro bytes
                have codes := congrArg UInt8.toNat bytes
                simp only [UInt8.toNat_ofNat'] at codes
                exact Char.ext (UInt32.toNat_inj.mp (by change d.toNat = c.toNat; omega))
              · rintro rfl
                rfl
            rw [utf8EncodeChar_of_ascii other, List.singleton_append, List.cons_prefix_cons,
              same, later]
          · constructor
            · intro front
              obtain ⟨b, rest, bytes, _⟩ := exists_utf8EncodeChar_eq_cons c
              rw [bytes, List.cons_append, List.cons_prefix_cons] at front
              have high := le_of_mem_utf8EncodeChar (Nat.le_of_not_lt other)
                (bytes ▸ List.mem_cons_self)
              have byte := congrArg UInt8.toNat front.1
              simp only [UInt8.toNat_ofNat'] at byte
              omega
            · rintro ⟨rfl, _⟩
              exact absurd low other
/-- A byte of ASCII begins a character, so a text may be cut in front of it. -/
theorem exists_cut_of_ascii {s : Text} {x y : Bytes} {b : UInt8} (ascii : b.toNat < 0x80)
    (split : utf8 s = x ++ b :: y) :
    ∃ front back, s = front ++ back ∧ utf8 front = x ∧ utf8 back = b :: y := by
  induction s generalizing x with
  | nil => exact absurd split (by simp [utf8])
  | cons c s ih =>
      by_cases start : x = []
      · exact ⟨[], c :: s, rfl, start.symm, by rw [split, start, List.nil_append]⟩
      · rw [utf8_cons] at split
        -- the byte lies behind those of the first character, which has only one if it is ASCII
        rcases List.append_eq_append_iff.mp split with
          ⟨further, whole, later⟩ | ⟨part, inside, later⟩
        · obtain ⟨front, back, rfl, own, rest⟩ := ih later
          exact ⟨c :: front, back, rfl, by rw [utf8_cons, own, whole], rest⟩
        · cases part with
          | nil =>
              obtain ⟨front, back, rfl, own, rest⟩ := ih (x := []) later.symm
              refine ⟨c :: front, back, rfl, ?_, rest⟩
              rw [utf8_cons, own, inside, List.append_nil, List.append_nil]
          | cons d part =>
              obtain rfl : b = d := (List.cons.inj later).1
              have mem : b ∈ String.utf8EncodeChar c := by
                rw [inside]
                exact List.mem_append_right x List.mem_cons_self
              have low : c.toNat < 0x80 := by
                refine Nat.lt_of_not_le fun high => ?_
                have above := le_of_mem_utf8EncodeChar high mem
                omega
              rw [utf8EncodeChar_of_ascii low] at inside
              cases x with
              | nil => exact absurd rfl start
              | cons e x => simp at inside

end ClientOrigin.Text
