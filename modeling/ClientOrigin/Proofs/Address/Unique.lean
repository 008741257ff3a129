import ClientOrigin.Proofs.Address.RoundTrip

/-!
# The text of an IPv4 address

Strict octets have no zero in front, so a number is an octet in one spelling only
(`readOctet_strict`), and four of them make up an address in one way (`octets_ofOctets`).  So an
IPv4 address is read from its own text and from no other (`ofText?_eq_some_v4_iff`).
-/

namespace ClientOrigin.Address

open Text

/-! ## Parts -/

theorem ofParts_append_singleton (base : Nat) (front : List Nat) (last : Nat) :
    ofParts base (front ++ [last]) = ofParts base front * base + last := by
  unfold ofParts
  rw [List.foldl_append]
  rfl

section Parts

variable {base : Nat} {digits : List Nat} (small : ∀ digit ∈ digits, digit < base)

include small

theorem ofParts_lt : ofParts base digits < base ^ digits.length := by
  induction digits using List.reverseRecOn with
  | nil => exact Nat.one_pos
  | append_singleton front last ih =>
      have before := ih fun digit mem => small digit (List.mem_append_left _ mem)
      have below : last < base := small last (by simp)
      have room := Nat.mul_le_mul_right base (Nat.succ_le_of_lt before)
      rw [ofParts_append_singleton, List.length_append, List.length_singleton, Nat.pow_succ]
      rw [Nat.succ_mul] at room
      omega

theorem parts_ofParts : parts base digits.length (ofParts base digits) = digits := by
  induction digits using List.reverseRecOn with
  | nil => rfl
  | append_singleton front last ih =>
      have before := ih fun digit mem => small digit (List.mem_append_left _ mem)
      have below : last < base := small last (by simp)
      have quotient : (ofParts base front * base + last) / base = ofParts base front := by
        rw [Nat.mul_comm, Nat.mul_add_div (by omega), Nat.div_eq_of_lt below, Nat.add_zero]
      have remainder : (ofParts base front * base + last) % base = last := by
        rw [Nat.mul_comm, Nat.mul_add_mod, Nat.mod_eq_of_lt below]
      rw [ofParts_append_singleton, List.length_append, List.length_singleton, parts, quotient,
        remainder, before]

end Parts

theorem octets_ofOctets {values : List Nat} (four : values.length = 4)
    (small : ∀ value ∈ values, value < 256) : octets (ofOctets values) = values := by
  have bound : ofParts 256 values < 2 ^ 32 := by
    have below := ofParts_lt small
    rw [four] at below
    exact below
  have written := parts_ofParts small
  rw [four] at written
  unfold octets ofOctets
  rw [BitVec.toNat_ofNat, Nat.mod_eq_of_lt bound, written]

/-! ## Readers -/

/-- What is read as a number is a numeral, and all digits at the start of the text. -/
theorem of_readNumber {base most bound value : Nat} {s rest : Text}
    (found : readNumber base most bound s = some (value, rest)) :
    ∃ n : Numeral base bound, n.digits = (spanDigits base s).1 ∧ n.digits.length ≤ most ∧
      n.value = value ∧ s = n.digits ++ rest := by
  have whole : (spanDigits base s).1 ++ (spanDigits base s).2 = s :=
    List.takeWhile_append_dropWhile
  obtain ⟨⟨some, short, below⟩, result⟩ := Option.ite_none_right_eq_some.mp found
  obtain ⟨rfl, rfl⟩ := Prod.mk.inj (Option.some.inj result)
  let n : Numeral base bound :=
    ⟨(spanDigits base s).1, some, fun c mem => List.mem_takeWhile_imp mem, below⟩
  exact ⟨n, rfl, short, rfl, whole.symm⟩

/-- A strict octet stands as its numeral. -/
theorem readOctet_strict {octet : Nat} {s rest : Text}
    (found : readOctet .strict s = some (octet, rest)) :
    octet < 256 ∧ s = decimal octet ++ rest := by
  obtain ⟨plain, number⟩ := Option.ite_none_left_eq_some.mp found
  obtain ⟨n, digits, _, rfl, whole⟩ := of_readNumber number
  have single : ∀ others, n.digits = '0' :: others → others = [] := by
    intro others start
    rw [digits] at start
    cases others with
    | nil => rfl
    | cons c others => exact absurd (by simp [start, Spelling.strict]) plain
  refine ⟨n.below, ?_⟩
  rw [Numeral.value, decimal_valueOf n.all n.nonempty single]
  exact whole

theorem readDottedTail_strict {count : Nat} {values : List Nat} {s rest : Text}
    (found : readDottedTail .strict count s = some (values, rest)) :
    values.length = count ∧ (∀ value ∈ values, value < 256) ∧
      s = dottedTail values ++ rest := by
  induction count generalizing values s with
  | zero =>
      obtain ⟨rfl, rfl⟩ := Prod.mk.inj (Option.some.inj found)
      exact ⟨rfl, by simp, rfl⟩
  | succ count ih =>
      simp only [readDottedTail, Option.bind_eq_bind, Option.bind_eq_some_iff, Option.pure_def,
        Option.some.injEq, Prod.mk.injEq, Prod.exists] at found
      obtain ⟨afterDot, dot, octet, afterOctet, first, others, left, tail, rfl, rfl⟩ := found
      obtain ⟨small, rfl⟩ := readOctet_strict first
      obtain ⟨length, others_small, rfl⟩ := ih tail
      refine ⟨by rw [List.length_cons, length],
        List.forall_mem_cons.mpr ⟨small, others_small⟩, ?_⟩
      rw [eq_cons_of_readChar? dot]
      simp [dottedTail]

theorem readOctets_strict {values : List Nat} {s rest : Text}
    (found : readOctets .strict s = some (values, rest)) :
    ∃ ip, octets ip = values ∧ s = printV4 ip ++ rest := by
  simp only [readOctets, Option.bind_eq_bind, Option.bind_eq_some_iff, Option.pure_def,
    Option.some.injEq, Prod.mk.injEq, Prod.exists] at found
  obtain ⟨octet, afterOctet, first, others, left, tail, rfl, rfl⟩ := found
  obtain ⟨small, rfl⟩ := readOctet_strict first
  obtain ⟨length, others_small, rfl⟩ := readDottedTail_strict tail
  have values : octets (ofOctets (octet :: others)) = octet :: others :=
    octets_ofOctets (by rw [List.length_cons, length])
      (List.forall_mem_cons.mpr ⟨small, others_small⟩)
  have text : printV4 (ofOctets (octet :: others)) = decimal octet ++ dottedTail others := by
    unfold printV4 dottedTail
    rw [values, List.map_cons, joined_cons_eq_flatMap]
  exact ⟨ofOctets (octet :: others), values, by rw [text, List.append_assoc]⟩

/-- What is read strictly as an IPv4 address is the text of that address. -/
theorem readV4_strict {bits : BitVec 32} {s rest : Text}
    (found : readV4 .strict s = some (bits, rest)) : s = printV4 bits ++ rest := by
  simp only [readV4, Option.bind_eq_bind, Option.bind_eq_some_iff, Option.pure_def,
    Option.some.injEq, Prod.mk.injEq, Prod.exists] at found
  obtain ⟨values, left, octets, rfl, rfl⟩ := found
  obtain ⟨ip, rfl, text⟩ := readOctets_strict octets
  rw [ofOctets_octets, text]

/-- An IPv4 address has one text. -/
theorem ofText?_eq_some_v4_iff {s : Text} {bits : BitVec 32} :
    ofText? s = some (.v4 bits) ↔ s = printV4 bits := by
  constructor
  · intro found
    unfold ofText? whole at found
    split at found
    · next a read =>
        obtain rfl : a = .v4 bits := Option.some.inj found
        unfold Address.read at read
        split at read
        · next other rest v4 =>
            obtain ⟨same, rfl⟩ := Prod.mk.inj (Option.some.inj read)
            obtain rfl : other = bits := Address.v4.inj same
            rw [readV4_strict v4, List.append_nil]
        · obtain ⟨result, _, same⟩ := Option.map_eq_some_iff.mp read
          cases same
    · cases found
  · rintro rfl
    exact ofText?_print (.v4 bits)

end ClientOrigin.Address
