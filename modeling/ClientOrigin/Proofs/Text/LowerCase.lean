import ClientOrigin.Proofs.Text.Cutting
import ClientOrigin.Text.Case

/-!
# Lower-casing piece by piece

Lower-casing looks at the characters around a capital sigma, so the lower-case form of a
piece may depend on what stands beside it.  It does not look past a character that has no
case and is not skipped either: such a character is a *case boundary*
(`IsCaseBoundary`), and the two sides of one are lower-cased on their own
(`lower_append_cons`).  The comma and the white space are case boundaries.
-/

namespace ClientOrigin.Text

/-! ## Boundaries -/

/-- Case contexts end at the character: it has no case, and it is not skipped. -/
def IsCaseBoundary (c : Char) : Prop := isCased c = false ∧ isCaseIgnorable c = false

instance (c : Char) : Decidable (IsCaseBoundary c) := inferInstanceAs (Decidable (_ ∧ _))

/-- A capital sigma has case. -/
theorem ne_sigma_of_boundary {c : Char} (h : IsCaseBoundary c) : c ≠ 'Σ' := by
  intro sigma
  subst sigma
  have cased : isCased 'Σ' = true := by decide +kernel
  rw [h.1] at cased
  exact Bool.false_ne_true cased

/-- A case context does not reach past a boundary. -/
theorem beginsCased_append_cons {c : Char} (h : IsCaseBoundary c) (s t : Text) :
    beginsCased (s ++ c :: t) = beginsCased s := by
  have stops : (c :: t).dropWhile isCaseIgnorable = c :: t := by
    rw [List.dropWhile_cons, if_neg (by rw [h.2]; exact Bool.false_ne_true)]
  unfold beginsCased
  rw [List.dropWhile_append]
  cases seen : s.dropWhile isCaseIgnorable with
  | nil =>
      rw [List.isEmpty_nil, if_pos rfl, stops]
      exact h.1
  | cons d rest => rfl

theorem endsWord_before {c : Char} (h : IsCaseBoundary c) (before far rest : Text) :
    endsWord (before ++ c :: far) rest = endsWord before rest := by
  unfold endsWord
  rw [beginsCased_append_cons h]

theorem endsWord_after {c : Char} (h : IsCaseBoundary c) (before rest far : Text) :
    endsWord before (rest ++ c :: far) = endsWord before rest := by
  unfold endsWord
  rw [beginsCased_append_cons h]

theorem lowerAfter_cons {c : Char} (h : c ≠ 'Σ') (rest before : Text) :
    lowerAfter before (c :: rest) = lowerForm c ++ lowerAfter (c :: before) rest := by
  rw [lowerAfter, if_neg h]

/-- What stands before a boundary does not matter behind it. -/
theorem lowerAfter_far {c : Char} (h : IsCaseBoundary c) (far s before : Text) :
    lowerAfter (before ++ c :: far) s = lowerAfter before s := by
  -- the text that has been read only grows in front of the boundary
  induction s generalizing before with
  | nil => rfl
  | cons d rest ih =>
      have next := ih (d :: before)
      rw [List.cons_append] at next
      simp only [lowerAfter, endsWord_before h, next]

/-- Both sides of a boundary are lower-cased on their own. -/
theorem lowerAfter_append_cons {c : Char} (h : IsCaseBoundary c) (a b before : Text) :
    lowerAfter before (a ++ c :: b) = lowerAfter before a ++ lowerForm c ++ lower b := by
  induction a generalizing before with
  | nil =>
      have fresh : lowerAfter (c :: before) b = lower b := lowerAfter_far h before b []
      rw [List.nil_append, lowerAfter_cons (ne_sigma_of_boundary h), fresh]
      rfl
  | cons d rest ih =>
      rw [List.cons_append]
      simp only [lowerAfter, endsWord_after h, ih, List.append_assoc]

theorem lower_append_cons {c : Char} (h : IsCaseBoundary c) (a b : Text) :
    lower (a ++ c :: b) = lower a ++ lowerForm c ++ lower b :=
  lowerAfter_append_cons h a b []

/-! ## Forms of single characters -/

/-- The forms in the table are letters: none lies below `a`, and each is a code point. -/
theorem lowerRuns_letters : ∀ run ∈ lowerRuns,
    (0x61 : Int) ≤ run.first + run.offset ∧
      (run.last + run.offset < 0xD800 ∨
        0xE000 ≤ run.first + run.offset ∧ run.last + run.offset < 0x110000) := by
  decide +kernel

theorem toNat_ofNat_of_valid {n : Nat} (h : n.isValidChar) : (Char.ofNat n).toNat = n := by
  unfold Char.ofNat
  rw [dif_pos h]
  rfl

/-- The lower-case form that a run of the table gives lies at `a` or above. -/
theorem le_toNat_of_mem_lowerRuns {run : CaseRun} (mem : run ∈ lowerRuns) {code : Nat}
    (least : run.first ≤ code) (greatest : code ≤ run.last) :
    0x61 ≤ (Char.ofNat (code + run.offset).toNat).toNat := by
  have letters := lowerRuns_letters run mem
  have valid : ((code : Int) + run.offset).toNat.isValidChar := by
    unfold Nat.isValidChar
    omega
  rw [toNat_ofNat_of_valid valid]
  omega

theorem asciiLower_of_low {c : Char} (low : (asciiLower c).toNat < 0x61) :
    asciiLower c = c := by
  unfold asciiLower Char.toLower at low ⊢
  split at low
  · next upper =>
      have least : 0x41 ≤ c.val.toNat := UInt32.le_iff_toNat_le.mp upper.1
      have greatest : c.val.toNat ≤ 0x5A := UInt32.le_iff_toNat_le.mp upper.2
      have moved : (c.val + ('a'.val - 'A'.val)).toNat = (c.val.toNat + 32) % 2 ^ 32 :=
        UInt32.toNat_add _ _
      change (c.val + ('a'.val - 'A'.val)).toNat < 0x61 at low
      omega
  · next lower => rw [dif_neg lower]

/-- A character below `a` in a lower-case form is the character itself. -/
theorem eq_of_mem_lowerForm {c d : Char} (mem : d ∈ lowerForm c) (low : d.toNat < 0x61) :
    d = c := by
  unfold lowerForm at mem
  by_cases ascii : c.toNat < 0x80
  · rw [if_pos ascii, List.mem_singleton] at mem
    subst mem
    exact asciiLower_of_low low
  · rw [if_neg ascii] at mem
    by_cases dotted : c.toNat = 0x130
    · rw [if_pos dotted, List.mem_cons, List.mem_singleton] at mem
      -- the dotted capital has a form of two characters, both of them high
      rcases mem with rfl | rfl
      · exact absurd low (by decide)
      · exact absurd low (by decide)
    · rw [if_neg dotted] at mem
      split at mem
      · next run found =>
          rw [List.mem_singleton] at mem
          subst mem
          have inRun := List.find?_some found
          simp only [Bool.and_eq_true, decide_eq_true_eq] at inRun
          have high := le_toNat_of_mem_lowerRuns (List.mem_of_find?_eq_some found)
            inRun.1.1 inRun.1.2
          omega
      · exact List.mem_singleton.mp mem

/-- Lower-casing brings in no character below `a`. -/
theorem mem_of_mem_lowerAfter {d : Char} (low : d.toNat < 0x61) {s before : Text}
    (mem : d ∈ lowerAfter before s) : d ∈ s := by
  induction s generalizing before with
  | nil => exact mem
  | cons c rest ih =>
      rw [lowerAfter] at mem
      rcases List.mem_append.mp mem with form | later
      · by_cases sigma : c = 'Σ'
        · rw [if_pos sigma, List.mem_singleton] at form
          subst form
          -- both forms of the sigma lie far above `a`
          split at low
          · exact absurd low (by decide)
          · exact absurd low (by decide)
        · rw [if_neg sigma] at form
          rw [eq_of_mem_lowerForm form low]
          exact List.mem_cons_self
      · exact List.mem_cons_of_mem c (ih later)

theorem lowerForm_ne_nil (c : Char) : lowerForm c ≠ [] := by
  unfold lowerForm
  split
  · simp
  · split
    · simp
    · split <;> simp

/-! ## ASCII -/

theorem lowerForm_of_ascii {c : Char} (ascii : c.toNat < 0x80) : lowerForm c = [asciiLower c] :=
  if_pos ascii

theorem asciiLower_ascii {c : Char} (ascii : (asciiLower c).toNat < 0x80) : c.toNat < 0x80 := by
  unfold asciiLower Char.toLower at ascii
  split at ascii
  · next upper =>
      have greatest : c.val.toNat ≤ 0x5A := UInt32.le_iff_toNat_le.mp upper.2
      change c.val.toNat < 0x80
      omega
  · exact ascii

/-- ASCII characters are lower-cased one by one, whatever stands around them. -/
theorem lowerAfter_append_of_ascii {s : Text} (ascii : ∀ c ∈ s, c.toNat < 0x80)
    (t before : Text) :
    lowerAfter before (s ++ t) = s.map asciiLower ++ lowerAfter (s.reverse ++ before) t := by
  induction s generalizing before with
  | nil => rfl
  | cons c rest ih =>
      have low := ascii c List.mem_cons_self
      have notSigma : c ≠ 'Σ' := by
        rintro rfl
        exact absurd low (by decide)
      rw [List.cons_append, lowerAfter_cons notSigma, lowerForm_of_ascii low,
        ih fun d mem => ascii d (List.mem_cons_of_mem c mem)]
      simp

theorem lower_of_ascii {s : Text} (ascii : ∀ c ∈ s, c.toNat < 0x80) :
    lower s = s.map asciiLower := by
  have alone := lowerAfter_append_of_ascii ascii [] []
  rw [List.append_nil] at alone
  simpa [lower, lowerAfter] using alone

/-! ## Commas -/

theorem boundary_comma : IsCaseBoundary ',' := by decide +kernel

theorem lowerForm_comma : lowerForm ',' = [','] := by decide +kernel

/-- A comma separates texts that are lower-cased on their own. -/
theorem lower_append_comma (a b : Text) : lower (a ++ ',' :: b) = lower a ++ ',' :: lower b := by
  rw [lower_append_cons boundary_comma, lowerForm_comma, List.append_assoc]
  rfl

theorem comma_not_mem_lower {s : Text} (h : ',' ∉ s) : ',' ∉ lower s := by
  intro mem
  exact h (mem_of_mem_lowerAfter (by decide) mem)

/-- The pieces of a lower-cased text are the lower-cased pieces. -/
theorem pieces_lower (s : Text) : pieces ',' (lower s) = (pieces ',' s).map lower := by
  induction s using pieces_induction ',' with
  | whole s fresh =>
      rw [pieces_of_not_mem fresh, pieces_of_not_mem (comma_not_mem_lower fresh)]
      rfl
  | cut a b fresh ih =>
      rw [lower_append_comma, pieces_append_cons, pieces_append_cons, List.map_append, ih,
        pieces_of_not_mem fresh, pieces_of_not_mem (comma_not_mem_lower fresh)]
      rfl

/-! ## White space -/

/-- The code points of the property `White_Space`. -/
def blankCodes : List Nat :=
  [9, 10, 11, 12, 13, 0x20, 0x85, 0xA0, 0x1680] ++ List.range' 0x2000 11 ++
    [0x2028, 0x2029, 0x202F, 0x205F, 0x3000]

theorem toNat_mem_blankCodes {c : Char} (h : isBlank c = true) : c.toNat ∈ blankCodes := by
  simp only [isBlank, Bool.or_eq_true, Bool.and_eq_true, decide_eq_true_eq, beq_iff_eq] at h
  simp only [blankCodes, List.mem_append, List.mem_cons, List.mem_range'_1, List.not_mem_nil,
    or_false]
  omega

theorem boundary_blankCodes : ∀ n ∈ blankCodes,
    IsCaseBoundary (Char.ofNat n) ∧ lowerForm (Char.ofNat n) = [Char.ofNat n] := by
  decide +kernel

/-- White space is a case boundary, and it is its own lower-case form. -/
theorem boundary_of_isBlank {c : Char} (h : isBlank c = true) :
    IsCaseBoundary c ∧ lowerForm c = [c] := by
  have facts := boundary_blankCodes c.toNat (toNat_mem_blankCodes h)
  rw [Char.ofNat_toNat] at facts
  exact facts

theorem blank_ne_comma {c : Char} (h : isBlank c = true) : c ≠ ',' := by
  intro comma
  subst comma
  exact absurd h (by decide)

/-- White space in front of a text stays in front of its lower-case form. -/
theorem lower_append_left {a : Text} (h : Blank a) (s : Text) : lower (a ++ s) = a ++ lower s := by
  induction a with
  | nil => rfl
  | cons c rest ih =>
      obtain ⟨boundary, same⟩ := boundary_of_isBlank (h c List.mem_cons_self)
      have front := lower_append_cons boundary [] (rest ++ s)
      rw [List.nil_append] at front
      rw [List.cons_append, front, same, ih (fun d mem => h d (List.mem_cons_of_mem c mem))]
      rfl

/-- White space behind a text stays behind its lower-case form. -/
theorem lower_append_right {b : Text} (h : Blank b) (s : Text) : lower (s ++ b) = lower s ++ b := by
  cases b with
  | nil => rw [List.append_nil, List.append_nil]
  | cons c rest =>
      obtain ⟨boundary, same⟩ := boundary_of_isBlank (h c List.mem_cons_self)
      have blank : Blank rest := fun d mem => h d (List.mem_cons_of_mem c mem)
      have alone := lower_append_left blank []
      rw [List.append_nil] at alone
      rw [lower_append_cons boundary, same, alone, List.append_assoc]
      exact congrArg _ (congrArg _ (List.append_nil rest))

/-- Lower-casing and trimming forget the white space around a text. -/
theorem trim_lower_pad {a b : Text} (ha : Blank a) (hb : Blank b) (s : Text) :
    trim (lower (a ++ s ++ b)) = trim (lower s) := by
  rw [lower_append_right hb, lower_append_left ha, trim_pad ha hb]

end ClientOrigin.Text
