import ClientOrigin.Forwarded.Attribute
import ClientOrigin.Proofs.Text.AsciiCase

/-!
# The marker and lower case

A header is scanned for the marker in lower case.  The characters of the marker are the forms of
themselves and their capitals alone (`marker_own`), so lower-casing brings in no marker: where one
stands in a lower-case form, it stands in the text too, with letters in either case
(`not_infix_lowerAfter`).
-/

namespace ClientOrigin.Forwarded

open Text

theorem marker_own : ∀ d ∈ marker, OwnForm d :=
  List.all_iff_forall_prop.mp (by decide)

/-- The marker in a lower-case form comes from the marker in the text, its letters in either
case. -/
theorem exists_infix_of_lowerAfter {s before : Text} (inside : marker <:+: lowerAfter before s) :
    ∃ m, m <:+: s ∧ m.map asciiLower = marker := by
  induction s generalizing before with
  | nil => exact absurd inside (by simp [lowerAfter, marker])
  | cons c rest ih =>
      obtain ⟨form, split, _, alone⟩ := exists_lowerAfter_cons_eq c rest before
      -- an occurrence either lies behind the form of `c` or begins with it
      have later : marker <:+: lowerAfter (c :: before) rest →
          ∃ m, m <:+: c :: rest ∧ m.map asciiLower = marker := by
        intro inRest
        obtain ⟨m, found, spelled⟩ := ih inRest
        exact ⟨m, found.trans (List.suffix_cons c rest).isInfix, spelled⟩
      obtain ⟨x, y, whole⟩ := inside
      rw [split, List.append_assoc] at whole
      rcases List.append_eq_append_iff.mp whole with ⟨extra, formEq, rest'⟩ | ⟨extra, _, rest'⟩
      · cases extra with
        | nil => exact later ⟨[], y, by simpa using rest'⟩
        | cons d extra =>
            have first : d = 'f' := (List.cons.inj rest').1.symm
            have mem : 'f' ∈ form := by simp [formEq, first]
            obtain ⟨one, _⟩ := alone 'f' (marker_own 'f' (by decide)) mem
            have start : x = [] := by
              rw [one] at formEq
              cases x with
              | nil => rfl
              | cons e x => simp at formEq
            have front : marker <+: lowerAfter before (c :: rest) := by
              rw [split, ← whole, start]
              exact List.prefix_append marker y
            obtain ⟨m, found, spelled⟩ := exists_prefix_of_lowerAfter marker_own front
            exact ⟨m, found.isInfix, spelled⟩
      · exact later ⟨extra, y, by rw [List.append_assoc]; exact rest'.symm⟩

/-- The marker does not occur in the text, its letters in either case. -/
def NoMarker (s : Text) : Prop := ¬ marker <:+: s.map asciiLower

instance (s : Text) : Decidable (NoMarker s) := inferInstanceAs (Decidable (¬ _))

theorem not_infix_lowerAfter {s : Text} (h : NoMarker s) (before : Text) :
    ¬ marker <:+: lowerAfter before s := by
  intro inside
  obtain ⟨m, found, spelled⟩ := exists_infix_of_lowerAfter inside
  exact h (spelled ▸ found.map asciiLower)

end ClientOrigin.Forwarded
