import ClientOrigin.Proofs.Forwarded.Candidates
import ClientOrigin.Proofs.Text.AsciiCase

/-!
# Reading is a homomorphism

The whole value is trimmed and lower-cased before it is cut, and the form of a sigma depends on
what stands around it.  Neither reaches over a comma, and the letters of ASCII count in either case
(`candidates_homomorphism`).
-/

namespace ClientOrigin.Forwarded

open Text

theorem candidates_map_asciiLower (value : Text) :
    candidates (value.map asciiLower) = candidates value := by
  unfold candidates segments
  rw [trim_map_asciiLower, lower_map_asciiLower]

/-- **Commas and letters.**  The candidates of two values with a comma between them are those of
the first and those of the second, whatever the values are, and values that differ in the case of
ASCII letters only have the same candidates. -/
theorem candidates_homomorphism :
    (∀ a b, candidates (a ++ [','] ++ b) = candidates a ++ candidates b) ∧
      ∀ value value', eqIgnoringAsciiCase value value' = true →
        candidates value' = candidates value := by
  refine ⟨fun a b => ?_, fun value value' same => ?_⟩
  · rw [List.append_assoc, List.singleton_append, candidates_append_comma]
  · have mapped : value.map asciiLower = value'.map asciiLower := beq_iff_eq.mp same
    rw [← candidates_map_asciiLower value', ← mapped, candidates_map_asciiLower]

/-- A sigma at the end of the first value, which would not be final if the capital behind the
comma counted, and the second value in two spellings. -/
theorem candidates_homomorphism_sigma :
    candidates ("aΣ".toList ++ [','] ++ "FOR=\"[2001:DB8::7]\", 1.2.3.4".toList) =
        candidates "aΣ".toList ++ candidates "FOR=\"[2001:DB8::7]\", 1.2.3.4".toList ∧
      eqIgnoringAsciiCase "AΣ,for=\"[2001:db8::7]\", 1.2.3.4".toList
        "aΣ,FOR=\"[2001:DB8::7]\", 1.2.3.4".toList = true ∧
      candidates "aΣ,FOR=\"[2001:DB8::7]\", 1.2.3.4".toList =
        [.v6 0x20010DB8000000000000000000000007#128, .v4 0x01020304#32] := by
  have spelled : eqIgnoringAsciiCase "AΣ,for=\"[2001:db8::7]\", 1.2.3.4".toList
      "aΣ,FOR=\"[2001:DB8::7]\", 1.2.3.4".toList = true := by decide +kernel
  refine ⟨candidates_homomorphism.1 _ _, spelled, ?_⟩
  rw [candidates_homomorphism.2 _ _ spelled]
  decide +kernel

end ClientOrigin.Forwarded
