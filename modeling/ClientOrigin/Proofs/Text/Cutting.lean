import ClientOrigin.Text.Blank
import ClientOrigin.Text.Pieces
import Mathlib.Data.Bool.AllAny
import Mathlib.Data.List.TakeWhile

/-!
# Trimming and cutting

White space around a text, and the pieces of a list between its separators.

* **trimming** — white space written around a text is what trimming takes away
  (`trim_pad`), and nothing else is (`exists_trim`);
* **cutting** — a separator ends a piece wherever it stands (`pieces_append_cons`),
  so a fact about pieces goes by induction on the separators of a list
  (`pieces_induction`).
-/

namespace ClientOrigin.Text

/-! ## Trimming -/

/-- White space only. -/
def Blank (s : Text) : Prop := ∀ c ∈ s, isBlank c = true

instance (s : Text) : Decidable (Blank s) := decidable_of_iff _ List.all_eq_true

theorem blank_nil : Blank [] := by
  intro c mem
  exact absurd mem List.not_mem_nil

theorem blank_reverse {s : Text} (h : Blank s) : Blank s.reverse := by
  intro c mem
  exact h c (List.mem_reverse.mp mem)

/-- White space in front of a text is dropped with the text's own. -/
theorem trimStart_append_left {a : Text} (h : Blank a) (s : Text) :
    trimStart (a ++ s) = trimStart s :=
  List.dropWhile_append_of_pos h

/-- White space behind a text is dropped with the text's own. -/
theorem trimEnd_append_right (s : Text) {b : Text} (h : Blank b) :
    trimEnd (s ++ b) = trimEnd s := by
  unfold trimEnd
  rw [List.reverse_append, List.dropWhile_append_of_pos (blank_reverse h)]

theorem trimStart_eq_nil_iff (s : Text) : trimStart s = [] ↔ Blank s :=
  List.dropWhile_eq_nil_iff

/-- A text that is not all white space keeps what follows it. -/
theorem trimStart_append_right {s : Text} (h : ¬ Blank s) (b : Text) :
    trimStart (s ++ b) = trimStart s ++ b := by
  have kept : (s.dropWhile isBlank).isEmpty = false := by
    rw [List.isEmpty_eq_false_iff]
    exact fun empty => h ((trimStart_eq_nil_iff s).mp empty)
  unfold trimStart
  rw [List.dropWhile_append, kept]
  rfl

theorem trim_of_blank {s : Text} (h : Blank s) : trim s = [] := by
  unfold trim
  rw [(trimStart_eq_nil_iff s).mpr h]
  rfl

/-- Trimming forgets the white space around a text. -/
theorem trim_pad {a b : Text} (ha : Blank a) (hb : Blank b) (s : Text) :
    trim (a ++ s ++ b) = trim s := by
  rw [List.append_assoc]
  unfold trim
  rw [trimStart_append_left ha]
  by_cases blank : Blank s
  · -- nothing is left of `s`, so nothing ends the white space in front
    rw [trimStart_append_left blank, (trimStart_eq_nil_iff b).mpr hb,
      (trimStart_eq_nil_iff s).mpr blank]
  · rw [trimStart_append_right blank, trimEnd_append_right _ hb]

/-- A text is its trimmed form between white space. -/
theorem exists_trim (s : Text) :
    ∃ a b, Blank a ∧ Blank b ∧ s = a ++ trim s ++ b := by
  refine ⟨s.takeWhile isBlank, ((trimStart s).reverse.takeWhile isBlank).reverse, ?_, ?_, ?_⟩
  · intro c mem
    exact List.mem_takeWhile_imp mem
  · intro c mem
    exact List.mem_takeWhile_imp (List.mem_reverse.mp mem)
  · have tail : trimStart s =
        trim s ++ ((trimStart s).reverse.takeWhile isBlank).reverse := by
      unfold trim trimEnd
      rw [← List.reverse_append, List.takeWhile_append_dropWhile, List.reverse_reverse]
    rw [List.append_assoc, ← tail]
    exact List.takeWhile_append_dropWhile.symm

theorem trim_trim (s : Text) : trim (trim s) = trim s := by
  obtain ⟨a, b, ha, hb, hs⟩ := exists_trim s
  have padded := trim_pad ha hb (trim s)
  rw [← hs] at padded
  exact padded.symm

theorem trim_eq_nil_iff (s : Text) : trim s = [] ↔ Blank s := by
  constructor
  · intro empty
    obtain ⟨a, b, ha, hb, hs⟩ := exists_trim s
    rw [empty, List.append_nil] at hs
    rw [hs]
    intro c mem
    rcases List.mem_append.mp mem with front | back
    · exact ha c front
    · exact hb c back
  · exact trim_of_blank

/-- A text with something else than white space at both ends is left alone. -/
theorem trim_of_ends {s : Text} (first : ∀ c ∈ s.head?, isBlank c = false)
    (last : ∀ c ∈ s.getLast?, isBlank c = false) : trim s = s := by
  have kept : ∀ t : Text, (∀ c ∈ t.head?, isBlank c = false) → t.dropWhile isBlank = t := by
    intro t solid
    cases t with
    | nil => rfl
    | cons c rest => simp [solid c rfl]
  have reversed : ∀ c ∈ s.reverse.head?, isBlank c = false := by
    rw [List.head?_reverse]
    exact last
  unfold trim trimStart trimEnd
  rw [kept s first, kept s.reverse reversed, List.reverse_reverse]

/-- Without white space there is nothing to trim. -/
theorem trim_of_not_blank {s : Text} (h : ∀ c ∈ s, isBlank c = false) : trim s = s :=
  trim_of_ends (fun c first => h c (List.mem_of_mem_head? first))
    (fun c last => h c (List.mem_of_getLast? last))

/-- White space is dropped up to a text that begins with something else. -/
theorem trimStart_append_cons {c : Char} (h : isBlank c = false) (a s : Text) :
    trimStart (a ++ c :: s) = trimStart a ++ c :: s := by
  unfold trimStart
  rw [List.dropWhile_append]
  split
  · next blank => simp_all
  · rfl

theorem trimEnd_append_cons {c : Char} (h : isBlank c = false) (s b : Text) :
    trimEnd (s ++ c :: b) = s ++ c :: trimEnd b := by
  have reversed := trimStart_append_cons h b.reverse s.reverse
  unfold trimStart at reversed
  unfold trimEnd
  rw [List.reverse_append, List.reverse_cons, List.append_assoc, List.singleton_append, reversed]
  simp

/-! ## Cutting -/

theorem joined_cons_cons {α : Type} (between a b : List α) (rest : List (List α)) :
    joined between (a :: b :: rest) = a ++ between ++ joined between (b :: rest) := rfl

theorem joined_cons_of_ne_nil {α : Type} (between a : List α) {rest : List (List α)}
    (h : rest ≠ []) : joined between (a :: rest) = a ++ between ++ joined between rest := by
  obtain ⟨b, others, rfl⟩ := List.exists_cons_of_ne_nil h
  rfl

/-- Two pieces with the separator between them may stand as one piece. -/
theorem joined_append_cons {α : Type} (between : List α) (front : List (List α)) (a b : List α)
    (back : List (List α)) :
    joined between (front ++ (a ++ between ++ b) :: back) =
      joined between (front ++ a :: b :: back) := by
  induction front with
  | nil =>
      cases back with
      | nil => simp [joined]
      | cons c rest => simp [joined_cons_cons]
  | cons piece rest ih =>
      rw [List.cons_append, List.cons_append, joined_cons_of_ne_nil _ _ (by simp), ih,
        joined_cons_of_ne_nil _ _ (by simp)]

/-- What is written behind the last piece is a part of it. -/
theorem joined_concat_append {α : Type} (between : List α) (front : List (List α))
    (a b : List α) : joined between (front ++ [a ++ b]) = joined between (front ++ [a]) ++ b := by
  induction front with
  | nil => rfl
  | cons piece rest ih =>
      rw [List.cons_append, List.cons_append, joined_cons_of_ne_nil _ _ (by simp), ih,
        joined_cons_of_ne_nil _ _ (by simp), List.append_assoc, List.append_assoc,
        List.append_assoc]

section Pieces

variable {α : Type} [DecidableEq α] {sep : α}

/-- Without a separator there is one piece. -/
theorem pieces_of_not_mem {s : List α} (h : sep ∉ s) : pieces sep s = [s] := by
  induction s with
  | nil => rfl
  | cons a rest ih =>
      rw [List.mem_cons, not_or] at h
      rw [pieces, if_neg (Ne.symm h.1), ih h.2]

/-- A separator ends a piece wherever it stands. -/
theorem pieces_append_cons (a b : List α) :
    pieces sep (a ++ sep :: b) = pieces sep a ++ pieces sep b := by
  induction a with
  | nil =>
      rw [List.nil_append, pieces]
      exact if_pos rfl
  | cons c rest ih =>
      rw [List.cons_append, pieces, pieces]
      by_cases h : c = sep
      · rw [if_pos h, if_pos h, ih]
        rfl
      · rw [if_neg h, if_neg h, ih]
        -- the first piece of `rest` is the one that `c` goes into
        obtain ⟨piece, others, first⟩ := List.exists_cons_of_ne_nil (pieces_ne_nil sep rest)
        rw [first]
        rfl

/-- Pieces that are joined are cut at the same places again. -/
theorem pieces_joined {parts : List (List α)} (some : parts ≠ [])
    (fresh : ∀ piece ∈ parts, sep ∉ piece) : pieces sep (joined [sep] parts) = parts := by
  induction parts with
  | nil => exact absurd rfl some
  | cons piece parts ih =>
      have own := pieces_of_not_mem (fresh piece List.mem_cons_self)
      cases parts with
      | nil => exact own
      | cons next parts =>
          have others := ih (by simp) fun part mem => fresh part (List.mem_cons_of_mem piece mem)
          rw [joined_cons_cons, List.append_assoc, List.singleton_append, pieces_append_cons, own,
            others, List.singleton_append]

/-- The first separator is the one that has none in front. -/
theorem cutFirst?_append_cons {a : List α} (h : sep ∉ a) (b : List α) :
    cutFirst? sep (a ++ sep :: b) = some (a, b) := by
  induction a with
  | nil => simp [cutFirst?]
  | cons c rest ih =>
      rw [List.mem_cons, not_or] at h
      simp [cutFirst?, Ne.symm h.1, ih h.2]

theorem after?_eq_some_iff {start s rest : List α} :
    after? start s = some rest ↔ s = start ++ rest := by
  induction start generalizing s with
  | nil => simp [after?]
  | cons a start ih =>
      cases s with
      | nil => simp [after?]
      | cons b s =>
          by_cases same : a = b
          · simp [after?, same, ih]
          · simp [after?, same, Ne.symm same]

/-- Induction on the separators of a list, from the left. -/
theorem pieces_induction (sep : α) {motive : List α → Prop}
    (whole : ∀ s, sep ∉ s → motive s)
    (cut : ∀ a b, sep ∉ a → motive b → motive (a ++ sep :: b)) (s : List α) : motive s := by
  -- on the number of separators: what stands behind the first one has one less
  induction h : s.count sep generalizing s with
  | zero => exact whole s (List.count_eq_zero.mp h)
  | succ n ih =>
      have mem : sep ∈ s := List.count_pos_iff.mp (by omega)
      obtain ⟨a, b, rfl, fresh⟩ := List.eq_append_cons_of_mem mem
      refine cut a b fresh (ih b ?_)
      rw [List.count_append, List.count_cons_self, List.count_eq_zero.mpr fresh] at h
      omega

end Pieces

end ClientOrigin.Text
