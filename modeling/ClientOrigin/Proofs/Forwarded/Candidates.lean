import ClientOrigin.Forwarded.Candidate
import ClientOrigin.Proofs.Text.LowerCase

/-!
# Candidates hop by hop

The reader of a forwarding header trims and lower-cases the whole value before it cuts it
at the commas.  Each hop is nevertheless read on its own:

* `candidates_eq_filterMap` — the candidates are what the single hops name, each one
  lower-cased and trimmed by itself;
* `candidates_append_comma` — a comma separates values that are read on their own, whatever
  stands on its two sides.

Everything that is said about a chain of hops follows from these two.
-/

namespace ClientOrigin.Forwarded

open Text

/-- The address that one hop names: its part of the value, in lower case and without the
white space around it. -/
def hopAddress? (hop : Text) : Option Address :=
  if trim (lower hop) = [] then none else segmentAddress? (trim (lower hop))

/-- White space around a hop is no part of it. -/
theorem hopAddress?_pad {a b : Text} (ha : Blank a) (hb : Blank b) (hop : Text) :
    hopAddress? (a ++ hop ++ b) = hopAddress? hop := by
  unfold hopAddress?
  rw [trim_lower_pad ha hb]

/-- White space has no comma, so it stays with the hop it stands at. -/
theorem comma_not_mem_blank {a : Text} (h : Blank a) : ',' ∉ a := by
  intro mem
  exact blank_ne_comma (h ',' mem) rfl

theorem filterMap_hops_append_right {b : Text} (h : Blank b) (value : Text) :
    (pieces ',' (value ++ b)).filterMap hopAddress? =
      (pieces ',' value).filterMap hopAddress? := by
  induction value using pieces_induction ',' with
  | whole s fresh =>
      have alone : ',' ∉ s ++ b := by
        rw [List.mem_append, not_or]
        exact ⟨fresh, comma_not_mem_blank h⟩
      rw [pieces_of_not_mem fresh, pieces_of_not_mem alone, List.filterMap_cons,
        List.filterMap_cons, ← hopAddress?_pad blank_nil h s, List.nil_append]
  | cut s t fresh ih =>
      rw [List.append_assoc, List.cons_append, pieces_append_cons, pieces_append_cons,
        List.filterMap_append, List.filterMap_append, ih]

theorem filterMap_hops_append_left {a : Text} (h : Blank a) (value : Text) :
    (pieces ',' (a ++ value)).filterMap hopAddress? =
      (pieces ',' value).filterMap hopAddress? := by
  -- only the first hop is touched, so the hops behind the first comma need no induction
  have first : ∀ s, ',' ∉ s →
      (pieces ',' (a ++ s)).filterMap hopAddress? = (pieces ',' s).filterMap hopAddress? := by
    intro s fresh
    have alone : ',' ∉ a ++ s := by
      rw [List.mem_append, not_or]
      exact ⟨comma_not_mem_blank h, fresh⟩
    rw [pieces_of_not_mem fresh, pieces_of_not_mem alone, List.filterMap_cons,
      List.filterMap_cons, ← hopAddress?_pad h blank_nil s, List.append_nil]
  induction value using pieces_induction ',' with
  | whole s fresh => exact first s fresh
  | cut s t fresh _ =>
      rw [← List.append_assoc, pieces_append_cons, pieces_append_cons, List.filterMap_append,
        List.filterMap_append, first s fresh]

/-- Hop by hop, once the white space around the whole value is gone. -/
theorem candidates_eq_filterMap_trim (value : Text) :
    candidates value = (pieces ',' (trim value)).filterMap hopAddress? := by
  unfold candidates segments
  rw [pieces_lower, List.map_map, List.filter_map, List.filterMap_map, List.filterMap_filter]
  congr 1
  funext hop
  unfold hopAddress?
  by_cases empty : trim (lower hop) = []
  · simp [empty]
  · simp [empty]

/-- The candidates of a value are the addresses that its hops name, each hop on its own. -/
theorem candidates_eq_filterMap (value : Text) :
    candidates value = (pieces ',' value).filterMap hopAddress? := by
  obtain ⟨a, b, ha, hb, hvalue⟩ := exists_trim value
  calc
    candidates value = (pieces ',' (trim value)).filterMap hopAddress? :=
      candidates_eq_filterMap_trim value
    _ = (pieces ',' (a ++ trim value ++ b)).filterMap hopAddress? := by
      rw [filterMap_hops_append_right hb, filterMap_hops_append_left ha]
    _ = (pieces ',' value).filterMap hopAddress? := by rw [← hvalue]

/-- A value without a comma is one hop. -/
theorem candidates_of_not_mem {hop : Text} (h : ',' ∉ hop) :
    candidates hop = (hopAddress? hop).toList := by
  rw [candidates_eq_filterMap, pieces_of_not_mem h, List.filterMap_cons]
  cases hopAddress? hop with
  | none => rfl
  | some address => rfl

/-- A comma separates values that are read on their own. -/
theorem candidates_append_comma (a b : Text) :
    candidates (a ++ ',' :: b) = candidates a ++ candidates b := by
  rw [candidates_eq_filterMap, candidates_eq_filterMap, candidates_eq_filterMap,
    pieces_append_cons, List.filterMap_append]

/-- White space around a value does not count. -/
theorem candidates_trim (value : Text) : candidates (trim value) = candidates value := by
  unfold candidates segments
  rw [trim_trim]

/-- Values joined by commas name the candidates of each in turn. -/
theorem candidates_joined (values : List Text) :
    candidates (joined [','] values) = values.flatMap candidates := by
  induction values with
  | nil => decide
  | cons value rest ih =>
      cases rest with
      | nil => exact (List.flatMap_singleton candidates value).symm
      | cons next rest =>
          rw [joined_cons_cons, List.append_assoc, List.singleton_append,
            candidates_append_comma, ih]
          rfl

end ClientOrigin.Forwarded
