import ClientOrigin.Forwarded.Candidate
import ClientOrigin.Proofs.Forwarded.Literal
import ClientOrigin.Proofs.Text.Encoding
import Mathlib.Data.Nat.Find

/-!
# The leftmost attribute

A segment has an attribute at a byte where the marker stands at the start of a word, with
something of the shape of a literal behind it (`AttributeAt`).  The scanner works on characters
and walks over the occurrences of the marker from left to right.

* **positions** — a marker among the bytes is a marker among the characters, and the byte in front
  of it belongs to a word exactly if the character does (`markerAt_iff`);
* **scan** — the scanner passes over every occurrence that offers no literal and stops at the
  first one that does (`findSome?_occurrencesAfter_eq_some_iff`);
* **segment** — so a segment is read at its leftmost attribute, and as a whole exactly if it has
  none (`segmentAddress?_leftmost`).
-/

namespace ClientOrigin.Forwarded

open Text

/-! ## Positions -/

/-- Bytes of a word: ASCII letters, digits and the underscore. -/
def IsWordByte (b : UInt8) : Prop :=
  (48 ≤ b.toNat ∧ b.toNat ≤ 57) ∨ (65 ≤ b.toNat ∧ b.toNat ≤ 90) ∨
    (97 ≤ b.toNat ∧ b.toNat ≤ 122) ∨ b.toNat = 95

/-- The marker stands at byte `p` of a segment, at the start of a word, with a text behind it. -/
structure MarkerAt (s : Text) (p : Nat) (after : Text) : Prop where
  found : utf8 marker <+: (utf8 s).drop p
  behind : (utf8 s).drop (p + marker.length) = utf8 after
  startsWord : p = 0 ∨ ∃ b, (utf8 s)[p - 1]? = some b ∧ ¬ IsWordByte b

/-- An attribute stands at byte `p` of a segment, with its literal and what follows that. -/
def AttributeAt (s : Text) (p : Nat) (literal rest : Text) : Prop :=
  ∃ after, MarkerAt s p after ∧ Offers after literal rest

/-- An attribute, and none further left. -/
structure Leftmost (s : Text) (p : Nat) (literal rest : Text) : Prop where
  stands : AttributeAt s p literal rest
  least : ∀ q < p, ∀ other rest, ¬ AttributeAt s q other rest

theorem isWordChar_iff {c : Char} :
    isWordChar c = true ↔ (48 ≤ c.toNat ∧ c.toNat ≤ 57) ∨ (65 ≤ c.toNat ∧ c.toNat ≤ 90) ∨
      (97 ≤ c.toNat ∧ c.toNat ≤ 122) ∨ c.toNat = 95 := by
  have underscore : c = '_' ↔ c.toNat = 95 := by
    constructor
    · rintro rfl
      rfl
    · intro code
      exact Char.ext (UInt32.toNat_inj.mp code)
  have upper : c.isUpper = true ↔ 65 ≤ c.toNat ∧ c.toNat ≤ 90 := decide_eq_true_iff
  have lower : c.isLower = true ↔ 97 ≤ c.toNat ∧ c.toNat ≤ 122 :=
    Bool.and_eq_true_iff.trans (and_congr decide_eq_true_iff decide_eq_true_iff)
  have digit : c.isDigit = true ↔ 48 ≤ c.toNat ∧ c.toNat ≤ 57 :=
    Bool.and_eq_true_iff.trans (and_congr decide_eq_true_iff decide_eq_true_iff)
  show ((c.isUpper || c.isLower || c.isDigit) || c == '_') = true ↔ _
  rw [Bool.or_eq_true, Bool.or_eq_true, Bool.or_eq_true, beq_iff_eq, upper, lower, digit,
    underscore]
  omega

/-- The last byte of a character belongs to a word exactly if the character does. -/
theorem isWordByte_last {c : Char} {b : UInt8}
    (last : (String.utf8EncodeChar c).getLast? = some b) :
    IsWordByte b ↔ isWordChar c = true := by
  rw [isWordChar_iff]
  unfold IsWordByte
  by_cases ascii : c.toNat < 0x80
  · rw [utf8EncodeChar_of_ascii ascii] at last
    obtain rfl : UInt8.ofNat c.toNat = b := Option.some.inj last
    have same : (UInt8.ofNat c.toNat).toNat = c.toNat := by
      simp
      omega
    rw [same]
  · have above := le_of_mem_utf8EncodeChar (Nat.le_of_not_lt ascii) (List.mem_of_getLast? last)
    omega

theorem startsWord_iff {s front t : Text} (split : s = front ++ t) :
    ((utf8 front).length = 0 ∨
        ∃ b, (utf8 s)[(utf8 front).length - 1]? = some b ∧ ¬ IsWordByte b) ↔
      ∀ c ∈ front.getLast?, isWordChar c = false := by
  rcases List.eq_nil_or_concat front with rfl | ⟨init, c, rfl⟩
  · simp [utf8]
  · rw [List.concat_eq_append] at split ⊢
    obtain ⟨b, last⟩ : ∃ b, (String.utf8EncodeChar c).getLast? = some b :=
      Option.isSome_iff_exists.mp (by simp [String.utf8EncodeChar_ne_nil])
    have bytes : (utf8 (init ++ [c])).getLast? = some b := by
      rw [utf8_append, utf8_cons, List.getLast?_append, List.getLast?_append, last]
      rfl
    have positive : 0 < (utf8 (init ++ [c])).length :=
      List.length_pos_iff.mpr (by simp [utf8_eq_nil_iff])
    have here : (utf8 s)[(utf8 (init ++ [c])).length - 1]? = some b := by
      rw [split, utf8_append, List.getElem?_append_left (by omega), ← List.getLast?_eq_getElem?,
        bytes]
    have word := isWordByte_last last
    simp [here, word, Nat.ne_of_gt positive]

/-- Where the marker stands among the bytes, it stands among the characters. -/
theorem markerAt_iff {s after : Text} {p : Nat} :
    MarkerAt s p after ↔
      ∃ front, s = front ++ (marker ++ after) ∧ (utf8 front).length = p ∧
        ∀ c ∈ front.getLast?, isWordChar c = false := by
  have length : marker.length = (utf8 marker).length := by decide
  constructor
  · rintro ⟨found, behind, startsWord⟩
    have rest : (utf8 s).drop p = utf8 (marker ++ after) := by
      obtain ⟨more, whole⟩ := found
      rw [← List.drop_drop, ← whole, length, List.drop_left] at behind
      rw [← whole, behind, utf8_append]
    have first : utf8 (marker ++ after) = 102 :: utf8 ("or=".toList ++ after) := rfl
    have inside : p < (utf8 s).length := by
      have some := congrArg List.length rest
      rw [first, List.length_drop, List.length_cons] at some
      omega
    -- the marker begins with a character of ASCII, and the segment can be cut in front of that
    obtain ⟨front, back, rfl, taken, left⟩ := exists_cut_of_ascii (b := 102) (by decide)
      (((List.take_append_drop p (utf8 s)).symm.trans (by rw [rest, first])))
    have position : (utf8 front).length = p := by
      rw [taken]
      exact List.length_take_of_le (Nat.le_of_lt inside)
    obtain rfl := utf8_injective (left.trans first.symm)
    subst position
    exact ⟨front, rfl, rfl, (startsWord_iff rfl).mp startsWord⟩
  · rintro ⟨front, split, rfl, plain⟩
    have rest : (utf8 s).drop (utf8 front).length = utf8 marker ++ utf8 after := by
      rw [split, utf8_append, utf8_append]
      exact List.drop_left
    refine ⟨⟨utf8 after, rest.symm⟩, ?_, (startsWord_iff split).mpr plain⟩
    rw [← List.drop_drop, rest, length]
    exact List.drop_left

/-! ## The scan -/

/-- The scanner, behind the character `before`, takes the literal at the marker behind `front`. -/
def Scans (before : Option Char) (s front literal : Text) : Prop :=
  ∃ after, s = front ++ (marker ++ after) ∧
    Occurrence.literal? ⟨front.getLast?.or before, after⟩ = some literal

theorem scans_nil_iff {before : Option Char} {s literal : Text} :
    Scans before s [] literal ↔
      (after? marker s).bind (fun after => Occurrence.literal? ⟨before, after⟩) =
        some literal := by
  unfold Scans
  simp only [List.nil_append, List.getLast?_nil, Option.none_or, Option.bind_eq_some_iff,
    after?_eq_some_iff]

theorem scans_cons_iff {before : Option Char} {c d : Char} {s front literal : Text} :
    Scans before (c :: s) (d :: front) literal ↔ d = c ∧ Scans (some c) s front literal := by
  have last : d = c → (d :: front).getLast?.or before = front.getLast?.or (some c) := by
    rintro rfl
    rw [List.getLast?_cons]
    cases front.getLast? <;> rfl
  unfold Scans
  simp only [List.cons_append, List.cons.injEq]
  constructor
  · rintro ⟨after, ⟨rfl, split⟩, taken⟩
    exact ⟨rfl, after, split, last rfl ▸ taken⟩
  · rintro ⟨rfl, after, split, taken⟩
    exact ⟨after, ⟨rfl, split⟩, (last rfl).symm ▸ taken⟩

theorem findSome?_occurrencesAfter_cons (before : Option Char) (c : Char) (s : Text) :
    (occurrencesAfter before (c :: s)).findSome? Occurrence.literal? =
      ((after? marker (c :: s)).bind fun after => Occurrence.literal? ⟨before, after⟩).or
        ((occurrencesAfter (some c) s).findSome? Occurrence.literal?) := by
  cases found : after? marker (c :: s) with
  | none => simp [occurrencesAfter_cons_of_none found]
  | some after =>
      rw [occurrencesAfter_cons_of_some found, List.findSome?_cons, Option.bind_some]
      cases Occurrence.literal? ⟨before, after⟩ <;> rfl

/-- The scanner takes the literal of the first occurrence that offers one. -/
theorem findSome?_occurrencesAfter_eq_some_iff {before : Option Char} {s literal : Text} :
    (occurrencesAfter before s).findSome? Occurrence.literal? = some literal ↔
      ∃ front, Scans before s front literal ∧
        ∀ front' other, Scans before s front' other →
          (utf8 front).length ≤ (utf8 front').length := by
  induction s generalizing before with
  | nil =>
      constructor
      · intro impossible
        cases impossible
      · rintro ⟨front, ⟨after, impossible, _⟩, _⟩
        exact absurd impossible (by simp [marker])
  | cons c s ih =>
      rw [findSome?_occurrencesAfter_cons]
      cases own : (after? marker (c :: s)).bind fun after =>
          Occurrence.literal? ⟨before, after⟩ with
      | some found =>
          have here : Scans before (c :: s) [] found := scans_nil_iff.mpr own
          rw [Option.some_or]
          constructor
          · intro same
            obtain rfl : found = literal := Option.some.inj same
            exact ⟨[], here, fun _ _ _ => Nat.zero_le _⟩
          · rintro ⟨front, taken, least⟩
            have start : utf8 front = [] :=
              List.length_eq_zero_iff.mp (Nat.le_zero.mp (least [] found here))
            rw [utf8_eq_nil_iff.mp start, scans_nil_iff] at taken
            exact own.symm.trans taken
      | none =>
          -- nothing is taken here, so everything that is taken lies behind this character
          have later : ∀ {front other}, Scans before (c :: s) front other →
              ∃ front', front = c :: front' ∧ Scans (some c) s front' other := by
            intro front other taken
            cases front with
            | nil =>
                rw [scans_nil_iff, own] at taken
                cases taken
            | cons d front =>
                obtain ⟨rfl, further⟩ := scans_cons_iff.mp taken
                exact ⟨front, rfl, further⟩
          rw [Option.none_or, ih]
          constructor
          · rintro ⟨front, taken, least⟩
            refine ⟨c :: front, scans_cons_iff.mpr ⟨rfl, taken⟩, fun front' other taken' => ?_⟩
            obtain ⟨further, rfl, behind⟩ := later taken'
            have less := least further other behind
            simp only [utf8_cons, List.length_append]
            omega
          · rintro ⟨front, taken, least⟩
            obtain ⟨further, rfl, behind⟩ := later taken
            refine ⟨further, behind, fun front' other taken' => ?_⟩
            have less := least (c :: front') other (scans_cons_iff.mpr ⟨rfl, taken'⟩)
            simp only [utf8_cons, List.length_append] at less
            omega

/-! ## Segments -/

theorem occurrence_literal?_eq_some_iff {before : Option Char} {after literal : Text} :
    Occurrence.literal? ⟨before, after⟩ = some literal ↔
      (∀ c ∈ before, isWordChar c = false) ∧ ∃ rest, Offers after literal rest := by
  unfold Occurrence.literal? Occurrence.startsWord
  cases before with
  | none => simp [literal?_eq_some_iff]
  | some c => cases isWordChar c <;> simp [literal?_eq_some_iff]

/-- What the scanner may take are the attributes. -/
theorem exists_attributeAt_iff {s literal : Text} {p : Nat} :
    (∃ rest, AttributeAt s p literal rest) ↔
      ∃ front, Scans none s front literal ∧ (utf8 front).length = p := by
  unfold AttributeAt Scans
  simp only [markerAt_iff, Option.or_none, occurrence_literal?_eq_some_iff]
  constructor
  · rintro ⟨rest, after, ⟨front, split, position, plain⟩, offered⟩
    exact ⟨front, ⟨after, split, plain, rest, offered⟩, position⟩
  · rintro ⟨front, ⟨after, split, plain, rest, offered⟩, position⟩
    exact ⟨rest, after, ⟨front, split, position, plain⟩, offered⟩

/-- The scanner takes the literal of the leftmost attribute. -/
theorem attribute?_eq_some_iff {s literal : Text} :
    attribute? s = some literal ↔ ∃ p rest, Leftmost s p literal rest := by
  unfold attribute? occurrences
  rw [findSome?_occurrencesAfter_eq_some_iff]
  constructor
  · rintro ⟨front, taken, least⟩
    obtain ⟨rest, stands⟩ := exists_attributeAt_iff.mpr ⟨front, taken, rfl⟩
    refine ⟨(utf8 front).length, rest, stands, fun q before other rest' earlier => ?_⟩
    obtain ⟨front', taken', rfl⟩ := exists_attributeAt_iff.mp ⟨rest', earlier⟩
    exact Nat.not_le_of_lt before (least front' other taken')
  · rintro ⟨p, rest, stands, least⟩
    obtain ⟨front, taken, rfl⟩ := exists_attributeAt_iff.mp ⟨rest, stands⟩
    refine ⟨front, taken, fun front' other taken' => Nat.le_of_not_lt fun before => ?_⟩
    obtain ⟨rest', earlier⟩ := exists_attributeAt_iff.mpr ⟨front', taken', rfl⟩
    exact least _ before other rest' earlier

/-- Among the attributes of a segment, if it has any, one is the leftmost. -/
theorem exists_leftmost {s literal rest : Text} {p : Nat} (h : AttributeAt s p literal rest) :
    ∃ q other rest, Leftmost s q other rest := by
  classical
  let Stands (q : Nat) : Prop := ∃ other rest, AttributeAt s q other rest
  have some : ∃ q, Stands q := ⟨p, literal, rest, h⟩
  obtain ⟨other, rest', stands⟩ := Nat.find_spec some
  refine ⟨Nat.find some, other, rest', stands, fun q before other' rest'' earlier => ?_⟩
  exact Nat.find_min some before ⟨other', rest'', earlier⟩

/-- **The leftmost attribute.**  The scanner takes a literal exactly if the segment has an
attribute, and then the one of the leftmost.  The segment is read as that literal alone, whether
it is an address or not, and as a whole exactly if it has no attribute. -/
theorem segmentAddress?_leftmost (s : Text) :
    ((attribute? s).isSome = true ↔ ∃ p literal rest, AttributeAt s p literal rest) ∧
      (∀ literal, attribute? s = some literal ↔ ∃ p rest, Leftmost s p literal rest) ∧
      (∀ p literal rest, Leftmost s p literal rest →
        segmentAddress? s = Address.ofText? literal) ∧
      ((¬ ∃ p literal rest, AttributeAt s p literal rest) →
        segmentAddress? s = Address.ofText? s) := by
  have taken : (attribute? s).isSome = true ↔ ∃ p literal rest, AttributeAt s p literal rest := by
    rw [Option.isSome_iff_exists]
    constructor
    · rintro ⟨literal, found⟩
      obtain ⟨p, rest, first⟩ := attribute?_eq_some_iff.mp found
      exact ⟨p, literal, rest, first.stands⟩
    · rintro ⟨p, literal, rest, stands⟩
      obtain ⟨q, other, rest', first⟩ := exists_leftmost stands
      exact ⟨other, attribute?_eq_some_iff.mpr ⟨q, rest', first⟩⟩
  refine ⟨taken, fun literal => attribute?_eq_some_iff, ?_, ?_⟩
  · intro p literal rest first
    unfold segmentAddress?
    rw [attribute?_eq_some_iff.mpr ⟨p, rest, first⟩]
  · intro none
    have absent : attribute? s = .none := by
      rw [← taken, Bool.not_eq_true, Option.isSome_eq_false_iff, Option.isNone_iff_eq_none] at none
      exact none
    unfold segmentAddress?
    rw [absent]

theorem segmentAddress?_leftmost_third :
    (∃ p rest, Leftmost "xfor=1.1.1.1;for=unknown;for=\"[2001:db8::1]\"".toList p
        "2001:db8::1".toList rest) ∧
      segmentAddress? "xfor=1.1.1.1;for=unknown;for=\"[2001:db8::1]\"".toList =
        some (.v6 0x20010db8000000000000000000000001#128) := by
  obtain ⟨_, taken, read, _⟩ :=
    segmentAddress?_leftmost "xfor=1.1.1.1;for=unknown;for=\"[2001:db8::1]\"".toList
  obtain ⟨p, rest, first⟩ := (taken "2001:db8::1".toList).mp (by decide)
  exact ⟨⟨p, rest, first⟩, (read p _ rest first).trans (by decide)⟩

end ClientOrigin.Forwarded
