import ClientOrigin.Forwarded.Scan
import ClientOrigin.Proofs.Forwarded.Leftmost
import ClientOrigin.Proofs.Text.LowerCase

/-!
# The scan never fails

A segment may have any characters, and its bytes are scanned by indices.

* **access** — the scan cuts a text only between two of its characters, where every access succeeds
  (`textFrom_utf8`, `textTo_utf8`);
* **search** — what is looked for is ASCII, so it is found in front of a character
  (`find?_utf8_cases`), and each look at a literal gives what it gives on characters
  (`bracketed?_utf8`, `dotted?_utf8`);
* **rounds** — a round takes the next of the occurrences that are left (`occurrencesAfter_first`),
  so the scan ends before it runs out of rounds, with the attribute (`scanFrom_utf8`).
-/

namespace ClientOrigin.Forwarded.Scan

open Text

/-! ## Access -/

/-- In front of a character, and at the end, a text may be cut. -/
theorem isBoundary_utf8 (front back : Text) :
    isBoundary (utf8 (front ++ back)) (utf8 front).length = true := by
  unfold isBoundary
  rw [utf8_append, List.getElem?_append_right (Nat.le_refl _), Nat.sub_self]
  cases back with
  | nil => simp [utf8]
  | cons c back =>
      obtain ⟨b, rest, bytes, first⟩ := exists_utf8EncodeChar_eq_cons c
      rw [utf8_cons, bytes]
      simpa using .inr first

theorem cutAt_utf8 (front back : Text) :
    cutAt (utf8 (front ++ back)) (utf8 front).length = .ok () := by
  have inside : ¬ (utf8 (front ++ back)).length < (utf8 front).length := by
    rw [utf8_append, List.length_append]
    omega
  unfold cutAt
  rw [if_neg inside, if_pos (isBoundary_utf8 front back)]

theorem textFrom_utf8 (front back : Text) :
    textFrom (utf8 (front ++ back)) (utf8 front).length = .ok (utf8 back) := by
  unfold textFrom
  rw [cutAt_utf8, utf8_append]
  exact congrArg Except.ok List.drop_left

theorem textTo_utf8 (front back : Text) :
    textTo (utf8 (front ++ back)) (utf8 front).length = .ok (utf8 front) := by
  unfold textTo
  rw [cutAt_utf8, utf8_append]
  exact congrArg Except.ok List.take_left

-- between the two bytes of a character it may not
example : textTo (utf8 ['é', 'a']) 1 = .error .insideCharacter := by decide

/-! ## Search -/

/-- The word stands behind `front`, and nowhere further left. -/
structure First (word s front after : Text) : Prop where
  split : s = front ++ (word ++ after)
  least : ∀ front' after', s = front' ++ (word ++ after') → front.length ≤ front'.length

/-- Bytes above ASCII are passed over in the search of a word. -/
theorem find?_append_of_high {b : UInt8} (ascii : b.toNat < 0x80) (word : Bytes) {x : Bytes}
    (high : ∀ b ∈ x, 0x80 ≤ b.toNat) (y : Bytes) :
    find? (b :: word) (x ++ y) = (find? (b :: word) y).map (· + x.length) := by
  induction x with
  | nil => simp
  | cons a x ih =>
      obtain ⟨above, others⟩ := List.forall_mem_cons.mp high
      have differ : b ≠ a := by
        rintro rfl
        omega
      rw [List.cons_append, find?, ih others]
      simp [List.isPrefixOf, differ, Function.comp_def, Nat.add_assoc]

/-- The search passes over a character at which the word does not begin. -/
theorem find?_utf8_cons {word : Text} (some : word ≠ []) (ascii : ∀ c ∈ word, c.toNat < 0x80)
    {c : Char} {s : Text} (here : ¬ word <+: c :: s) :
    find? (utf8 word) (utf8 (c :: s)) =
      (find? (utf8 word) (utf8 s)).map (· + (String.utf8EncodeChar c).length) := by
  cases word with
  | nil => exact absurd rfl some
  | cons d word =>
      have low := ascii d List.mem_cons_self
      rw [← utf8_prefix_iff ascii] at here
      rw [utf8_cons d, utf8EncodeChar_of_ascii low, List.singleton_append] at here ⊢
      rw [utf8_cons c] at here ⊢
      by_cases other : c.toNat < 0x80
      · rw [utf8EncodeChar_of_ascii other, List.singleton_append] at here ⊢
        rw [find?, if_neg (fun front => here (List.isPrefixOf_iff_prefix.mp front))]
        rfl
      · refine find?_append_of_high ?_ _ ?_ _
        · simp
          omega
        · exact fun b => le_of_mem_utf8EncodeChar (Nat.le_of_not_lt other)

theorem find?_utf8_of_prefix {word s : Text} (front : word <+: s) :
    find? (utf8 word) (utf8 s) = some 0 := by
  obtain ⟨after, rfl⟩ := front
  rw [utf8_append]
  cases bytes : utf8 word ++ utf8 after with
  | nil =>
      rw [List.append_eq_nil_iff] at bytes
      rw [find?, if_pos bytes.1]
  | cons b rest =>
      have start : (utf8 word).isPrefixOf (b :: rest) = true :=
        List.isPrefixOf_iff_prefix.mpr ⟨utf8 after, bytes⟩
      rw [find?, if_pos start]

/-- A word of ASCII is found where it stands among the characters for the first time; by induction
on the characters. -/
theorem find?_utf8_cases {word : Text} (some : word ≠ []) (ascii : ∀ c ∈ word, c.toNat < 0x80)
    (s : Text) :
    (find? (utf8 word) (utf8 s) = none ∧ ¬ word <:+: s) ∨
      ∃ front after, First word s front after ∧
        find? (utf8 word) (utf8 s) = .some (utf8 front).length := by
  induction s with
  | nil =>
      have bytes : utf8 word ≠ [] := fun empty => some (utf8_eq_nil_iff.mp empty)
      exact .inl ⟨if_neg bytes, by simpa using some⟩
  | cons c s ih =>
      by_cases here : word <+: c :: s
      · obtain ⟨after, split⟩ := id here
        exact .inr ⟨[], after, ⟨split.symm, fun _ _ _ => Nat.zero_le _⟩,
          find?_utf8_of_prefix here⟩
      · have further := find?_utf8_cons some ascii here
        rcases ih with ⟨none, absent⟩ | ⟨front, after, ⟨split, least⟩, found⟩
        · refine .inl ⟨by rw [further, none]; rfl, fun inside => ?_⟩
          rcases List.infix_cons_iff.mp inside with front | later
          · exact here front
          · exact absent later
        · refine .inr ⟨c :: front, after, ⟨by rw [split]; rfl, fun front' after' other => ?_⟩, ?_⟩
          · cases front' with
            | nil => exact absurd ⟨after', other.symm⟩ here
            | cons d front' =>
                exact Nat.succ_le_succ (least front' after' (List.cons.inj other).2)
          · rw [further, found, utf8_cons, List.length_append]
            exact congrArg _ (Nat.add_comm _ _)

/-! ## Classes of bytes -/

section Classes

variable {p : Char → Bool} {q : UInt8 → Bool} (same : ∀ b, q b = p (Char.ofNat b.toNat))
  (ascii : ∀ c, p c = true → c.toNat < 0x80)

include same

theorem class_of_ascii {c : Char} (low : c.toNat < 0x80) : q (UInt8.ofNat c.toNat) = p c := by
  have byte : (UInt8.ofNat c.toNat).toNat = c.toNat := by
    simp
    omega
  rw [same, byte, Char.ofNat_toNat]

include ascii

theorem class_of_high {b : UInt8} (high : 0x80 ≤ b.toNat) : q b = false := by
  have valid : b.toNat.isValidChar := by
    have small := b.toNat_lt
    exact .inl (by omega)
  rw [same, ← Bool.not_eq_true]
  intro inside
  have low := ascii _ inside
  rw [toNat_ofNat_of_valid valid] at low
  omega

omit same in
theorem class_of_not_ascii {c : Char} (high : ¬ c.toNat < 0x80) : p c = false := by
  rw [← Bool.not_eq_true]
  exact fun inside => high (ascii c inside)

/-- The last byte of a character is in the class exactly if the character is. -/
theorem class_last {c : Char} {b : UInt8} (last : (String.utf8EncodeChar c).getLast? = some b) :
    q b = p c := by
  by_cases low : c.toNat < 0x80
  · rw [utf8EncodeChar_of_ascii low] at last
    obtain rfl : UInt8.ofNat c.toNat = b := Option.some.inj last
    exact class_of_ascii same low
  · have high := le_of_mem_utf8EncodeChar (Nat.le_of_not_lt low) (List.mem_of_getLast? last)
    rw [class_of_high same ascii high, class_of_not_ascii ascii low]

theorem all_utf8 (s : Text) : (utf8 s).all q = s.all p := by
  induction s with
  | nil => rfl
  | cons c s ih =>
      rw [utf8_cons, List.all_append, List.all_cons, ih]
      by_cases low : c.toNat < 0x80
      · rw [utf8EncodeChar_of_ascii low, List.all_cons, class_of_ascii same low, List.all_nil,
          Bool.and_true]
      · obtain ⟨b, rest, bytes, _⟩ := exists_utf8EncodeChar_eq_cons c
        have high := le_of_mem_utf8EncodeChar (Nat.le_of_not_lt low) (bytes ▸ List.mem_cons_self)
        rw [bytes, List.all_cons, class_of_high same ascii high,
          class_of_not_ascii ascii low, Bool.false_and, Bool.false_and]

/-- Up to `n` bytes of a class at the start of a text are up to `n` characters. -/
theorem takeWhile_take_utf8 (n : Nat) (s : Text) :
    ((utf8 s).take n).takeWhile q = utf8 ((s.take n).takeWhile p) := by
  induction s generalizing n with
  | nil => simp [utf8]
  | cons c s ih =>
      cases n with
      | zero => simp [utf8]
      | succ n =>
          rw [utf8_cons, List.take_succ_cons, List.takeWhile_cons]
          by_cases low : c.toNat < 0x80
          · rw [utf8EncodeChar_of_ascii low, List.singleton_append, List.take_succ_cons,
              List.takeWhile_cons, class_of_ascii same low, ih]
            cases p c with
            | false => rfl
            | true =>
                rw [if_pos rfl, if_pos rfl, utf8_cons, utf8EncodeChar_of_ascii low]
                rfl
          · obtain ⟨b, rest, bytes, _⟩ := exists_utf8EncodeChar_eq_cons c
            have high := le_of_mem_utf8EncodeChar (Nat.le_of_not_lt low)
              (bytes ▸ List.mem_cons_self)
            rw [bytes, List.cons_append, List.take_succ_cons, List.takeWhile_cons,
              class_of_high same ascii high, class_of_not_ascii ascii low]
            rfl

end Classes

theorem ascii_of_isDigitOf {base : Nat} {c : Char} (digit : isDigitOf base c = true) :
    c.toNat < 0x80 := by
  by_contra high
  have none : digitValue? base c = none := by
    unfold digitValue?
    simp only [Bool.and_eq_true, decide_eq_true_eq]
    rw [if_neg (by omega), if_neg (by omega), if_neg (by omega)]
    rfl
  rw [isDigitOf, none] at digit
  exact Bool.false_ne_true digit

theorem ascii_of_isV6Char {c : Char} (inside : isV6Char c = true) : c.toNat < 0x80 := by
  rcases Bool.or_eq_true_iff.mp inside with digit | colon
  · exact ascii_of_isDigitOf digit
  · rw [beq_iff_eq.mp colon]
    decide

theorem ascii_of_isWordChar {c : Char} (inside : isWordChar c = true) : c.toNat < 0x80 := by
  have ranges := isWordChar_iff.mp inside
  omega

/-! ## Literals -/

/-- A byte of ASCII at the start of a text is its first character. -/
theorem utf8_cons_ascii {c : Char} (ascii : c.toNat < 0x80) (s : Text) :
    utf8 (c :: s) = UInt8.ofNat c.toNat :: utf8 s := by
  rw [utf8_cons, utf8EncodeChar_of_ascii ascii]
  rfl

theorem exists_cons_of_utf8 {c : Char} (ascii : c.toNat < 0x80) {s : Text} {rest : Bytes}
    (bytes : utf8 s = UInt8.ofNat c.toNat :: rest) : ∃ t, s = c :: t ∧ rest = utf8 t := by
  have front : utf8 [c] <+: utf8 s := ⟨rest, by rw [bytes, utf8_cons_ascii ascii]; rfl⟩
  obtain ⟨t, rfl⟩ := (utf8_prefix_iff (by simpa using ascii)).mp front
  rw [List.singleton_append, utf8_cons_ascii ascii] at bytes
  exact ⟨t, rfl, (List.cons.inj bytes).2.symm⟩

theorem unquoted_utf8 (s : Text) : unquoted (utf8 s) = utf8 (Forwarded.unquoted s) := by
  unfold unquoted
  split
  · next rest bytes =>
      obtain ⟨t, rfl, rfl⟩ := exists_cons_of_utf8 (c := '"') (by decide) bytes
      rfl
  · next other =>
      unfold Forwarded.unquoted
      split
      · next t => exact absurd (utf8_cons_ascii (by decide) t) (other _)
      · rfl

theorem bracketed?_utf8 (s : Text) :
    bracketed? (utf8 s) = .ok ((Forwarded.bracketed? s).map utf8) := by
  unfold bracketed?
  split
  · next rest bytes =>
      obtain ⟨t, rfl, rfl⟩ := exists_cons_of_utf8 (c := '[') (by decide) bytes
      have ascii : ∀ c ∈ [']'], c.toNat < 0x80 := List.all_iff_forall_prop.mp (by decide)
      rcases find?_utf8_cases (by simp) ascii t with
        ⟨none, absent⟩ | ⟨inner, after, ⟨split, least⟩, found⟩
      · have fresh : ']' ∉ t := by
          intro mem
          obtain ⟨front, back, rfl⟩ := List.append_of_mem mem
          exact absent ⟨front, back, by simp⟩
        have uncut : cutFirst? ']' t = .none := by
          cases cut : cutFirst? ']' t with
          | none => rfl
          | some parts =>
              have written := (cutFirst?_eq_some (a := parts.1) (b := parts.2) cut).1
              exact absurd (written ▸ by simp) fresh
        rw [none]
        simp only [Forwarded.bracketed?, uncut]
        rfl
      · have fresh : ']' ∉ inner := by
          intro mem
          obtain ⟨front, back, rfl⟩ := List.append_of_mem mem
          have shorter := least front (back ++ ']' :: after) (by rw [split]; simp)
          rw [List.length_append, List.length_cons] at shorter
          omega
        have cut : cutFirst? ']' t = some (inner, after) := by
          rw [split]
          exact cutFirst?_append_cons fresh after
        have taken : textTo (utf8 t) (utf8 inner).length = .ok (utf8 inner) := by
          rw [split]
          exact textTo_utf8 inner _
        have chars : (utf8 inner).all isV6Byte = inner.all isV6Char :=
          all_utf8 (fun _ => rfl) (fun _ => ascii_of_isV6Char) inner
        simp only [found, taken, Forwarded.bracketed?, cut]
        show Except.ok (if utf8 inner ≠ [] ∧ (utf8 inner).all isV6Byte = true then
          some (utf8 inner) else none) = _
        simp only [chars, ne_eq, utf8_eq_nil_iff]
        split
        · rfl
        · rfl
  · next other =>
      unfold Forwarded.bracketed?
      split
      · next t => exact absurd (utf8_cons_ascii (by decide) t) (other _)
      · rfl

/-- The byte behind `front` is a dot exactly if the character there is. -/
theorem getElem?_utf8_dot (front back : Text) :
    (utf8 (front ++ back))[(utf8 front).length]? = some 0x2E ↔ ∃ t, back = '.' :: t := by
  rw [utf8_append, List.getElem?_append_right (Nat.le_refl _), Nat.sub_self]
  constructor
  · intro dot
    cases bytes : utf8 back with
    | nil => simp [bytes] at dot
    | cons b rest =>
        rw [bytes] at dot
        obtain rfl : b = 0x2E := Option.some.inj dot
        obtain ⟨t, rfl, _⟩ := exists_cons_of_utf8 (c := '.') (by decide) bytes
        exact ⟨t, rfl⟩
  · rintro ⟨t, rfl⟩
    rw [utf8_cons_ascii (by decide)]
    rfl

/-- A group of digits behind `front`, and the groups behind it. -/
theorem groupsEnd?_group (front back : Text) (count : Nat) :
    (do
      let behind ← bytesFrom (utf8 (front ++ back)) (utf8 front).length
      let digits := (behind.take 3).takeWhile isDigitByte
      if digits = [] then return none
      else groupsEnd? (utf8 (front ++ back)) count false ((utf8 front).length + digits.length)) =
    if digitGroup back = [] then .ok none
    else
      groupsEnd? (utf8 (front ++ back)) count false (utf8 (front ++ digitGroup back)).length := by
  have behind : bytesFrom (utf8 (front ++ back)) (utf8 front).length = .ok (utf8 back) := by
    unfold bytesFrom
    rw [utf8_append, if_pos (by simp), List.drop_left]
  have digits : ((utf8 back).take 3).takeWhile isDigitByte = utf8 (digitGroup back) :=
    takeWhile_take_utf8 (fun _ => rfl) (fun _ => ascii_of_isDigitOf) 3 back
  rw [behind]
  show (if ((utf8 back).take 3).takeWhile isDigitByte = [] then Except.ok none else _) = _
  simp only [digits, utf8_eq_nil_iff, utf8_append, List.length_append]

/-- The groups behind `front` end behind what they are on characters; by induction on their
number. -/
theorem groupsEnd?_utf8 (front back : Text) (count : Nat) :
    groupsEnd? (utf8 (front ++ back)) count false (utf8 front).length =
      .ok ((dottedTail? count back).map fun tail => (utf8 (front ++ tail)).length) := by
  induction count generalizing front back with
  | zero =>
      show Except.ok (some (utf8 front).length) = Except.ok (some (utf8 (front ++ [])).length)
      rw [List.append_nil]
  | succ count ih =>
      by_cases dot : ∃ t, back = '.' :: t
      · obtain ⟨t, rfl⟩ := dot
        have here : (utf8 (front ++ '.' :: t))[(utf8 front).length]? = some 0x2E :=
          (getElem?_utf8_dot front _).mpr ⟨t, rfl⟩
        have next : (utf8 front).length + 1 = (utf8 (front ++ ['.'])).length := by
          rw [utf8_append, List.length_append]
          rfl
        have whole : front ++ '.' :: t = front ++ ['.'] ++ t := by simp
        have group := groupsEnd?_group (front ++ ['.']) t count
        rw [← whole, ← next] at group
        rw [groupsEnd?, here]
        refine group.trans ?_
        rw [dottedTail?]
        by_cases none : digitGroup t = []
        · rw [if_pos none, if_pos none]
          rfl
        · obtain ⟨rest, split, behind, _, _⟩ := digitGroup_spec none
          have more := ih (front ++ ['.'] ++ digitGroup t) rest
          rw [List.append_assoc, ← split, ← whole] at more
          rw [if_neg none, if_neg none, more, behind, Option.map_map]
          simp [Function.comp_def]
      · have none : (utf8 (front ++ back))[(utf8 front).length]? ≠ some 0x2E :=
          fun byte => dot ((getElem?_utf8_dot front back).mp byte)
        have absent : dottedTail? (count + 1) back = .none := by
          unfold dottedTail?
          split
          · contradiction
          · exact absurd ⟨_, rfl⟩ dot
          · rfl
        rw [groupsEnd?, absent, if_pos (by simp [none])]
        rfl

theorem dotted?_utf8 (s : Text) : dotted? (utf8 s) = .ok ((Forwarded.dotted? s).map utf8) := by
  have ends : groupsEnd? (utf8 s) 4 true 0 =
      .ok ((Forwarded.dotted? s).map fun literal => (utf8 literal).length) := by
    have group := groupsEnd?_group [] s 3
    rw [groupsEnd?]
    refine group.trans ?_
    unfold Forwarded.dotted?
    dsimp only
    split
    · rfl
    · next some =>
        obtain ⟨rest, split, behind, _, _⟩ := digitGroup_spec some
        have more := groupsEnd?_utf8 (digitGroup s) rest 3
        rw [← split] at more
        rw [List.nil_append, List.nil_append, more, behind, Option.map_map]
        rfl
  unfold dotted?
  rw [ends]
  cases taken : Forwarded.dotted? s with
  | none => rfl
  | some literal =>
      obtain ⟨_, rest, _, split, written, _⟩ := dotted?_eq_some_iff.mp taken
      have cut : textTo (utf8 s) (utf8 literal).length = .ok (utf8 literal) := by
        rw [split, ← written]
        exact textTo_utf8 literal rest
      show (textTo (utf8 s) (utf8 literal).length >>= fun text => pure (some text)) = _
      rw [cut]
      rfl

theorem literal?_utf8 (s : Text) : literal? (utf8 s) = .ok ((Forwarded.literal? s).map utf8) := by
  unfold literal? Forwarded.literal?
  rw [unquoted_utf8, bracketed?_utf8]
  cases Forwarded.bracketed? (Forwarded.unquoted s) with
  | none => exact dotted?_utf8 _
  | some inner => rfl

/-! ## Rounds -/

theorem isInsideWord_utf8 (front back : Text) :
    isInsideWord (utf8 (front ++ back)) (utf8 front).length =
      .ok (front.getLast?.any isWordChar) := by
  unfold isInsideWord
  rcases List.eq_nil_or_concat front with rfl | ⟨init, c, rfl⟩
  · rfl
  · rw [List.concat_eq_append]
    obtain ⟨b, last⟩ : ∃ b, (String.utf8EncodeChar c).getLast? = some b :=
      Option.isSome_iff_exists.mp (by simp [String.utf8EncodeChar_ne_nil])
    have bytes : (utf8 (init ++ [c])).getLast? = some b := by
      rw [utf8_append, utf8_cons, List.getLast?_append, List.getLast?_append, last]
      rfl
    have positive : 0 < (utf8 (init ++ [c])).length :=
      List.length_pos_iff.mpr (by simp [utf8_eq_nil_iff])
    have byte : byteAt (utf8 (init ++ [c] ++ back)) ((utf8 (init ++ [c])).length - 1) = .ok b := by
      unfold byteAt
      rw [utf8_append _ back, List.getElem?_append_left (by omega), ← List.getLast?_eq_getElem?,
        bytes]
    have word : isWordByte b = isWordChar c :=
      class_last (fun _ => rfl) (fun _ => ascii_of_isWordChar) last
    rw [if_pos positive, byte, List.getLast?_concat]
    exact congrArg Except.ok word

/-- A round takes what the occurrence offers. -/
theorem round_utf8 (front after : Text) :
    round (utf8 (front ++ (marker ++ after))) (utf8 front).length =
      .ok ((Occurrence.literal? ⟨front.getLast?, after⟩).map utf8) := by
  have length : (utf8 front).length + (utf8 marker).length = (utf8 (front ++ marker)).length := by
    rw [utf8_append, List.length_append]
  have behind := textFrom_utf8 (front ++ marker) after
  rw [List.append_assoc] at behind
  have starts : Occurrence.startsWord ⟨front.getLast?, after⟩ =
      !front.getLast?.any isWordChar := by
    unfold Occurrence.startsWord
    cases front.getLast? <;> rfl
  unfold round Occurrence.literal?
  rw [isInsideWord_utf8, length, behind, starts]
  cases front.getLast?.any isWordChar with
  | true => rfl
  | false => exact literal?_utf8 after

/-- The first occurrence that is left, and those behind it. -/
theorem occurrencesAfter_first {s front after : Text} (first : First marker s front after)
    (before : Option Char) :
    occurrencesAfter before s =
      ⟨front.getLast?.or before, after⟩ :: occurrencesAfter (some '=') after := by
  obtain ⟨rfl, least⟩ := first
  induction front generalizing before with
  | nil =>
      -- no marker begins inside a marker
      rw [List.nil_append, occurrencesAfter_marker]
      rfl
  | cons c front ih =>
      have none : after? marker (c :: (front ++ (marker ++ after))) = none := by
        apply after?_eq_none
        rintro ⟨rest, here⟩
        exact absurd (least [] rest here.symm) (by simp)
      have further : ∀ front' after', front ++ (marker ++ after) = front' ++ (marker ++ after') →
          front.length ≤ front'.length := by
        intro front' after' split
        have longer := least (c :: front') after' (by rw [List.cons_append, split]; rfl)
        exact Nat.le_of_succ_le_succ longer
      have later := ih (some c) further
      have last : (c :: front).getLast?.or before = front.getLast?.or (some c) := by
        rw [List.getLast?_cons]
        cases front.getLast? <;> rfl
      rw [List.cons_append, occurrencesAfter_cons_of_none none, later, last]

theorem marker_ne_nil : marker ≠ [] := by decide

theorem marker_ascii : ∀ c ∈ marker, c.toNat < 0x80 :=
  List.all_iff_forall_prop.mp (by decide)

section Steps

variable {segment rest : Bytes} {index : Nat} (left : textFrom segment index = .ok rest)

include left

theorem scanFrom_of_none (none : find? (utf8 marker) rest = none) (rounds : Nat) :
    scanFrom segment rounds index = .ok .none := by
  rw [scanFrom, left]
  simp only [bind, Except.bind, none]
  rfl

variable {offset : Nat} (found : find? (utf8 marker) rest = some offset)

include found

theorem scanFrom_of_literal {literal : Bytes}
    (taken : round segment (index + offset) = .ok (some literal)) (rounds : Nat) :
    scanFrom segment (rounds + 1) index = .ok (some literal) := by
  rw [scanFrom, left]
  simp only [bind, Except.bind, found, taken]
  rfl

theorem scanFrom_of_pass (passed : round segment (index + offset) = .ok none) (rounds : Nat) :
    scanFrom segment (rounds + 1) index =
      scanFrom segment rounds (index + offset + (utf8 marker).length) := by
  rw [scanFrom, left]
  simp only [bind, Except.bind, found, passed]

end Steps

/-- The scan of what stands behind `front` spends at most one round on each occurrence there, and
gives the literal of the first that offers one; by induction on the rounds. -/
theorem scanFrom_utf8 {front back : Text} {rounds : Nat}
    (enough : (occurrencesAfter front.getLast? back).length ≤ rounds) :
    scanFrom (utf8 (front ++ back)) rounds (utf8 front).length =
      .ok (((occurrencesAfter front.getLast? back).findSome? Occurrence.literal?).map utf8) := by
  have left := textFrom_utf8 front back
  induction rounds generalizing front back with
  | zero =>
      have none : occurrencesAfter front.getLast? back = [] :=
        List.length_eq_zero_iff.mp (Nat.le_zero.mp enough)
      rcases find?_utf8_cases marker_ne_nil marker_ascii back with
        ⟨missing, _⟩ | ⟨mid, after, first, _⟩
      · rw [none, scanFrom_of_none left missing]
        rfl
      · rw [occurrencesAfter_first first] at none
        cases none
  | succ rounds ih =>
      rcases find?_utf8_cases marker_ne_nil marker_ascii back with
        ⟨missing, absent⟩ | ⟨mid, after, first, found⟩
      · rw [occurrencesAfter_eq_nil absent, scanFrom_of_none left missing]
        rfl
      · have whole : front ++ back = front ++ mid ++ (marker ++ after) := by
          rw [first.split, List.append_assoc]
        have start : (utf8 front).length + (utf8 mid).length = (utf8 (front ++ mid)).length := by
          rw [utf8_append, List.length_append]
        have taken := round_utf8 (front ++ mid) after
        rw [← whole, ← start, List.getLast?_append] at taken
        rw [occurrencesAfter_first first, List.length_cons] at enough
        rw [occurrencesAfter_first first, List.findSome?_cons]
        cases offer : Occurrence.literal? ⟨mid.getLast?.or front.getLast?, after⟩ with
        | some literal =>
            rw [offer] at taken
            rw [scanFrom_of_literal left found taken]
            rfl
        | none =>
            -- the next round starts behind the marker
            have next : front ++ back = front ++ mid ++ marker ++ after := by
              rw [whole, List.append_assoc _ marker]
            have last : (front ++ mid ++ marker).getLast? = some '=' := by
              rw [List.getLast?_append]
              rfl
            have index : (utf8 front).length + (utf8 mid).length + (utf8 marker).length =
                (utf8 (front ++ mid ++ marker)).length := by
              rw [start, ← List.length_append, ← utf8_append]
            have fewer : (occurrencesAfter (front ++ mid ++ marker).getLast? after).length ≤
                rounds := by
              rw [last]
              omega
            have further := ih fewer (textFrom_utf8 _ _)
            rw [← next, ← index, last] at further
            rw [offer] at taken
            rw [scanFrom_of_pass left found taken, further]

/-! ## The number of rounds -/

theorem count_cons (pattern : Bytes) (b : UInt8) (rest : Bytes) :
    count pattern (b :: rest) =
      (if pattern <+: b :: rest then 1 else 0) + count pattern rest := by
  unfold count
  rw [List.length_cons, List.range_succ_eq_map, List.countP_cons, List.countP_map, Nat.add_comm]
  simp only [List.drop_zero, List.isPrefixOf_iff_prefix]
  rfl

/-- A word of ASCII does not begin inside a character. -/
theorem count_append_of_high {b : UInt8} (ascii : b.toNat < 0x80) (word : Bytes) {x : Bytes}
    (high : ∀ b ∈ x, 0x80 ≤ b.toNat) (y : Bytes) :
    count (b :: word) (x ++ y) = count (b :: word) y := by
  induction x with
  | nil => rfl
  | cons a x ih =>
      obtain ⟨above, others⟩ := List.forall_mem_cons.mp high
      have differ : ¬ b :: word <+: a :: (x ++ y) := by
        intro front
        rw [(List.cons_prefix_cons.mp front).1] at ascii
        omega
      rw [List.cons_append, count_cons, if_neg differ, Nat.zero_add, ih others]

theorem count_marker_cons (c : Char) (s : Text) :
    count (utf8 marker) (utf8 (c :: s)) =
      (if marker <+: c :: s then 1 else 0) + count (utf8 marker) (utf8 s) := by
  by_cases low : c.toNat < 0x80
  · have same : utf8 marker <+: UInt8.ofNat c.toNat :: utf8 s ↔ marker <+: c :: s := by
      rw [← utf8_cons_ascii low, utf8_prefix_iff marker_ascii]
    rw [utf8_cons_ascii low, count_cons]
    simp only [same]
  · have high : ∀ b ∈ String.utf8EncodeChar c, 0x80 ≤ b.toNat :=
      fun b => le_of_mem_utf8EncodeChar (Nat.le_of_not_lt low)
    have none : ¬ marker <+: c :: s := by
      intro front
      rw [← (List.cons_prefix_cons.mp front).1] at low
      exact low (by decide)
    rw [if_neg none, Nat.zero_add, utf8_cons]
    exact count_append_of_high (by decide) _ high _

/-- The marker stands as often among the bytes as it occurs among the characters. -/
theorem count_marker (before : Option Char) (s : Text) :
    count (utf8 marker) (utf8 s) = (occurrencesAfter before s).length := by
  induction s generalizing before with
  | nil => rfl
  | cons c s ih =>
      rw [count_marker_cons, ih (some c)]
      by_cases here : marker <+: c :: s
      · obtain ⟨after, split⟩ := id here
        rw [if_pos here, occurrencesAfter_cons_of_some (after?_eq_some_iff.mpr split.symm),
          List.length_cons, Nat.add_comm]
      · rw [if_neg here, occurrencesAfter_cons_of_none (after?_eq_none here), Nat.zero_add]

/-- **The scan never fails.**  Whatever characters a segment has, no access of the scan lies outside
its bytes or cuts a character, and the scan ends with as many rounds as the segment has markers; it
gives the bytes of the attribute.  Neither do the readers of literals fail on any text. -/
theorem scan_succeeds :
    (∀ segment : Text,
      scanFrom (utf8 segment) (count (utf8 marker) (utf8 segment)) 0 =
        .ok ((attribute? segment).map utf8)) ∧
    (∀ text : Text, bracketed? (utf8 text) = .ok ((Forwarded.bracketed? text).map utf8)) ∧
    ∀ text : Text, dotted? (utf8 text) = .ok ((Forwarded.dotted? text).map utf8) := by
  refine ⟨fun segment => ?_, bracketed?_utf8, dotted?_utf8⟩
  have enough : (occurrencesAfter ([] : Text).getLast? segment).length ≤
      count (utf8 marker) (utf8 segment) := Nat.le_of_eq (count_marker _ segment).symm
  exact scanFrom_utf8 enough

-- one round less than there are markers is not enough
example : scanFrom (utf8 "for=x, for=1.2.3.4".toList) 1 0 = .error .outOfRounds := by
  decide +kernel

end ClientOrigin.Forwarded.Scan
