import ClientOrigin.Proofs.Text.LowerCase

/-!
# Lower case and the letters of ASCII

Lower-casing follows all of Unicode, and looks at the characters around a capital sigma.  The
letters of ASCII are read in either case all the same.

* **forgetting** — their case changes neither their own form nor the context of another character
  (`lower_map_asciiLower`), so texts that differ in it only have one lower-case form;
* **origin** — most characters of ASCII are the form of themselves and their capital alone
  (`OwnForm`; the Kelvin sign and the dotted capital stand behind the two exceptions), so a word of
  these is the form of that word and of no other text (`lower_eq_iff`).
-/

namespace ClientOrigin.Text

/-! ## The case of a letter is forgotten -/

theorem asciiLower_cases (c : Char) :
    asciiLower c = c ∨ ∃ n ∈ List.range' 0x41 26, c = Char.ofNat n := by
  by_cases upper : c.val ≥ 'A'.val ∧ c.val ≤ 'Z'.val
  · have least : 0x41 ≤ c.toNat := UInt32.le_iff_toNat_le.mp upper.1
    have greatest : c.toNat ≤ 0x5A := UInt32.le_iff_toNat_le.mp upper.2
    exact .inr ⟨c.toNat, by rw [List.mem_range'_1]; omega, c.ofNat_toNat.symm⟩
  · exact .inl (dif_neg upper)

/-- A capital of ASCII and its letter are one character for lower-casing and trimming. -/
theorem capitals_alike : ∀ n ∈ List.range' 0x41 26,
    isCased (asciiLower (Char.ofNat n)) = isCased (Char.ofNat n) ∧
      isCaseIgnorable (asciiLower (Char.ofNat n)) = isCaseIgnorable (Char.ofNat n) ∧
      lowerForm (asciiLower (Char.ofNat n)) = lowerForm (Char.ofNat n) ∧
      isBlank (asciiLower (Char.ofNat n)) = isBlank (Char.ofNat n) ∧
      asciiLower (Char.ofNat n) ≠ 'Σ' ∧ Char.ofNat n ≠ 'Σ' := by
  decide +kernel

section Characters

variable (c : Char)

theorem isCased_asciiLower : isCased (asciiLower c) = isCased c := by
  rcases asciiLower_cases c with same | ⟨n, mem, rfl⟩
  · rw [same]
  · exact (capitals_alike n mem).1

theorem isCaseIgnorable_asciiLower : isCaseIgnorable (asciiLower c) = isCaseIgnorable c := by
  rcases asciiLower_cases c with same | ⟨n, mem, rfl⟩
  · rw [same]
  · exact (capitals_alike n mem).2.1

theorem lowerForm_asciiLower : lowerForm (asciiLower c) = lowerForm c := by
  rcases asciiLower_cases c with same | ⟨n, mem, rfl⟩
  · rw [same]
  · exact (capitals_alike n mem).2.2.1

theorem isBlank_asciiLower : isBlank (asciiLower c) = isBlank c := by
  rcases asciiLower_cases c with same | ⟨n, mem, rfl⟩
  · rw [same]
  · exact (capitals_alike n mem).2.2.2.1

theorem asciiLower_eq_sigma_iff : asciiLower c = 'Σ' ↔ c = 'Σ' := by
  rcases asciiLower_cases c with same | ⟨n, mem, rfl⟩
  · rw [same]
  · obtain ⟨_, _, _, _, lower, upper⟩ := capitals_alike n mem
    exact iff_of_false lower upper

end Characters

theorem beginsCased_map_asciiLower (s : Text) : beginsCased (s.map asciiLower) = beginsCased s := by
  have skipped : isCaseIgnorable ∘ asciiLower = isCaseIgnorable :=
    funext isCaseIgnorable_asciiLower
  unfold beginsCased
  rw [List.dropWhile_map, skipped]
  cases s.dropWhile isCaseIgnorable with
  | nil => rfl
  | cons c rest => exact isCased_asciiLower c

theorem lowerAfter_map_asciiLower (s before : Text) :
    lowerAfter (before.map asciiLower) (s.map asciiLower) = lowerAfter before s := by
  induction s generalizing before with
  | nil => rfl
  | cons c rest ih =>
      have context : endsWord (before.map asciiLower) (rest.map asciiLower) =
          endsWord before rest := by
        unfold endsWord
        rw [beginsCased_map_asciiLower, beginsCased_map_asciiLower]
      have later := ih (c :: before)
      rw [List.map_cons] at later
      rw [List.map_cons, lowerAfter, lowerAfter, later, context, lowerForm_asciiLower]
      simp only [asciiLower_eq_sigma_iff]

theorem lower_map_asciiLower (s : Text) : lower (s.map asciiLower) = lower s :=
  lowerAfter_map_asciiLower s []

theorem trim_map_asciiLower (s : Text) : trim (s.map asciiLower) = (trim s).map asciiLower := by
  have blank : isBlank ∘ asciiLower = isBlank := funext isBlank_asciiLower
  unfold trim trimEnd trimStart
  rw [List.dropWhile_map, blank, ← List.map_reverse, List.dropWhile_map, blank, List.map_reverse]

theorem lower_eq_nil_iff {s : Text} : lower s = [] ↔ s = [] := by
  constructor
  · intro empty
    cases s with
    | nil => rfl
    | cons c rest =>
        have form : lowerAfter [] (c :: rest) = [] := empty
        rw [lowerAfter, List.append_eq_nil_iff] at form
        by_cases sigma : c = 'Σ'
        · rw [if_pos sigma] at form
          exact absurd form.1 (by simp)
        · rw [if_neg sigma] at form
          exact absurd form.1 (lowerForm_ne_nil c)
  · rintro rfl
    rfl

/-! ## Where a letter comes from -/

/-- Of the characters in the table beyond ASCII, the Kelvin sign alone has a form in ASCII. -/
theorem lowerRuns_beyond : ∀ run ∈ lowerRuns, 0x80 ≤ run.last →
    (0x80 : Int) ≤ run.first + run.offset ∨
      run.first + run.offset = 0x6B ∧ run.last = run.first := by
  decide +kernel

/-- A character of ASCII that is in the lower-case form of no character beyond ASCII. -/
def OwnForm (d : Char) : Prop := d.toNat < 0x80 ∧ d ≠ 'i' ∧ d ≠ 'k'

instance (d : Char) : Decidable (OwnForm d) := inferInstanceAs (Decidable (_ ∧ _))

theorem OwnForm.lowerForm {c d : Char} (own : OwnForm d) (mem : d ∈ lowerForm c) :
    lowerForm c = [d] ∧ asciiLower c = d := by
  obtain ⟨ascii, notDotted, notKelvin⟩ := own
  unfold Text.lowerForm at mem ⊢
  by_cases low : c.toNat < 0x80
  · rw [if_pos low, List.mem_singleton] at mem
    rw [if_pos low, mem]
    exact ⟨rfl, rfl⟩
  · rw [if_neg low] at mem
    by_cases dotted : c.toNat = 0x130
    · rw [if_pos dotted, List.mem_cons, List.mem_singleton] at mem
      rcases mem with rfl | rfl
      · exact absurd rfl notDotted
      · exact absurd ascii (by decide)
    · rw [if_neg dotted] at mem
      split at mem
      · next run found =>
          have inRun := List.find?_some found
          simp only [Bool.and_eq_true, decide_eq_true_eq] at inRun
          have member := List.mem_of_find?_eq_some found
          have letters := lowerRuns_letters run member
          have valid : ((c.toNat : Int) + run.offset).toNat.isValidChar := by
            unfold Nat.isValidChar
            omega
          rw [List.mem_singleton] at mem
          have code := congrArg Char.toNat mem
          rw [toNat_ofNat_of_valid valid] at code
          rcases lowerRuns_beyond run member (by omega) with beyond | ⟨kelvin, alone⟩
          · omega
          · have letter : d.toNat = 'k'.toNat := by
              show d.toNat = 0x6B
              omega
            exact absurd (Char.ext (UInt32.toNat_inj.mp letter)) notKelvin
      · rw [List.mem_singleton] at mem
        subst mem
        exact absurd ascii low

/-- The lower-case form of a text begins with that of its first character, which has a character
of this kind only if it is that character. -/
theorem exists_lowerAfter_cons_eq (c : Char) (rest before : Text) :
    ∃ form, lowerAfter before (c :: rest) = form ++ lowerAfter (c :: before) rest ∧
      form ≠ [] ∧ ∀ d, OwnForm d → d ∈ form → form = [d] ∧ asciiLower c = d := by
  by_cases sigma : c = 'Σ'
  · refine ⟨_, by rw [lowerAfter, if_pos sigma], by simp, ?_⟩
    rintro d ⟨ascii, _⟩ mem
    rw [List.mem_singleton] at mem
    split at mem
    · exact absurd ascii (by rw [mem]; decide)
    · exact absurd ascii (by rw [mem]; decide)
  · exact ⟨lowerForm c, lowerAfter_cons sigma rest before, lowerForm_ne_nil c,
      fun d own mem => own.lowerForm mem⟩

/-- A word of such characters at the start of a lower-case form comes from that word at the start
of the text. -/
theorem exists_prefix_of_lowerAfter {word s before : Text} (own : ∀ d ∈ word, OwnForm d)
    (front : word <+: lowerAfter before s) : ∃ m, m <+: s ∧ m.map asciiLower = word := by
  induction word generalizing s before with
  | nil => exact ⟨[], List.nil_prefix, rfl⟩
  | cons d word ih =>
      cases s with
      | nil => exact absurd front (by simp [lowerAfter])
      | cons c rest =>
          obtain ⟨form, split, nonempty, alone⟩ := exists_lowerAfter_cons_eq c rest before
          have first : d ∈ form := by
            cases form with
            | nil => exact absurd rfl nonempty
            | cons e form =>
                rw [split, List.cons_append, List.cons_prefix_cons] at front
                exact front.1 ▸ List.mem_cons_self
          obtain ⟨rfl, same⟩ := alone d (own d List.mem_cons_self) first
          rw [split, List.singleton_append, List.cons_prefix_cons] at front
          obtain ⟨m, inside, spelled⟩ :=
            ih (fun e mem => own e (List.mem_cons_of_mem d mem)) front.2
          exact ⟨c :: m, List.cons_prefix_cons.mpr ⟨rfl, inside⟩, by simp [same, spelled]⟩

/-- A lower-case form has at least as many characters as the text. -/
theorem length_le_lowerAfter (s before : Text) : s.length ≤ (lowerAfter before s).length := by
  induction s generalizing before with
  | nil => exact Nat.zero_le _
  | cons c rest ih =>
      obtain ⟨form, split, nonempty, _⟩ := exists_lowerAfter_cons_eq c rest before
      have some : 0 < form.length := List.length_pos_iff.mpr nonempty
      have later := ih (c :: before)
      rw [split, List.length_append, List.length_cons]
      omega

/-- A word of such characters is the lower-case form of its own spellings alone. -/
theorem lower_eq_iff {word : Text} (own : ∀ d ∈ word, OwnForm d) (s : Text) :
    lower s = word ↔ s.map asciiLower = word := by
  constructor
  · intro form
    have front : word <+: lowerAfter [] s := form ▸ List.prefix_refl word
    obtain ⟨m, inside, spelled⟩ := exists_prefix_of_lowerAfter own front
    have short : s.length ≤ m.length := by
      have lengths := length_le_lowerAfter s []
      rwa [show lowerAfter [] s = word from form, ← spelled, List.length_map] at lengths
    rwa [inside.eq_of_length_le short] at spelled
  · rintro spelled
    have ascii : ∀ c ∈ s, c.toNat < 0x80 := by
      intro c mem
      refine asciiLower_ascii (own (asciiLower c) ?_).1
      rw [← spelled]
      exact List.mem_map_of_mem mem
    rw [lower_of_ascii ascii, spelled]

end ClientOrigin.Text
