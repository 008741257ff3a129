import ClientOrigin.Text.Digits
import Mathlib.Algebra.Group.Nat.Defs
import Mathlib.Data.List.Induction
import Mathlib.Data.List.TakeWhile

/-!
# Numerals read back

A number that is written in a base from 2 to 16 is made of digits of that base
(`mem_numeral`), has no zero in front unless it is zero
(`numeral_eq_zero_cons`), and writes the number again (`valueOf_numeral`).  In decimal no other
digits without a zero in front write it (`decimal_valueOf`).  In a longer text a numeral
ends where the first character stands that is no digit (`spanDigits_numeral`).
-/

namespace ClientOrigin.Text

/-! ## Single digits -/

theorem digitValue?_digitChar : ∀ base ≤ 16, ∀ value < base,
    digitValue? base (Nat.digitChar value) = some value := by
  decide

theorem isDigitOf_digitChar {base value : Nat} (small : base ≤ 16) (h : value < base) :
    isDigitOf base (Nat.digitChar value) = true := by
  simp [isDigitOf, digitValue?_digitChar base small value h]

/-- A digit of a base is a digit of every larger one. -/
theorem isDigitOf_mono {small large : Nat} (h : small ≤ large) {c : Char}
    (digit : isDigitOf small c = true) : isDigitOf large c = true := by
  simp only [isDigitOf, digitValue?, Option.isSome_filter, Option.any_eq_true,
    decide_eq_true_eq] at digit ⊢
  obtain ⟨value, found, bound⟩ := digit
  exact ⟨value, found, by omega⟩

/-- A digit is no white space. -/
theorem isBlank_of_isDigitOf {base : Nat} {c : Char} (digit : isDigitOf base c = true) :
    isBlank c = false := by
  simp only [isDigitOf, digitValue?, Option.isSome_filter, Option.any_eq_true] at digit
  obtain ⟨value, found, _⟩ := digit
  refine Bool.eq_false_iff.mpr fun blank => ?_
  simp only [isBlank, Bool.or_eq_true, Bool.and_eq_true, decide_eq_true_eq, beq_iff_eq] at blank
  simp only [Bool.and_eq_true, decide_eq_true_eq] at found
  rw [if_neg (by omega), if_neg (by omega), if_neg (by omega)] at found
  exact nomatch found

/-! ## Numerals -/

section Numerals

variable {base : Nat} (many : 1 < base) (small : base ≤ 16)

include many small

omit small in
theorem mem_numeral {value : Nat} {c : Char} (mem : c ∈ numeral base value) :
    ∃ digit < base, c = Nat.digitChar digit := by
  induction value using Nat.strongRecOn with
  | ind value ih =>
      unfold numeral at mem ih
      rw [Nat.toDigits_eq_if many] at mem
      split at mem
      · next short => exact ⟨value, short, List.mem_singleton.mp mem⟩
      · next long =>
          rcases List.mem_append.mp mem with front | last
          · exact ih (value / base) (Nat.div_lt_self (by omega) many) front
          · exact ⟨value % base, Nat.mod_lt _ (by omega), List.mem_singleton.mp last⟩

theorem isDigitOf_of_mem_numeral (value : Nat) :
    ∀ c ∈ numeral base value, isDigitOf base c = true := by
  intro c mem
  obtain ⟨digit, bound, rfl⟩ := mem_numeral many mem
  exact isDigitOf_digitChar small bound

theorem valueOf_numeral (value : Nat) : valueOf base (numeral base value) = value := by
  induction value using Nat.strongRecOn with
  | ind value ih =>
      unfold numeral valueOf at ih ⊢
      rw [Nat.toDigits_eq_if many]
      split
      · next short => simp [digitValue?_digitChar base small value short]
      · next long =>
          have rest : value % base < base := Nat.mod_lt _ (by omega)
          rw [List.foldl_append, ih (value / base) (Nat.div_lt_self (by omega) many)]
          simp only [List.foldl_cons, List.foldl_nil,
            digitValue?_digitChar base small _ rest, Option.getD_some]
          exact Nat.div_add_mod' value base

/-- Only zero is written with a zero in front. -/
theorem numeral_eq_zero_cons {value : Nat} {rest : Text}
    (h : numeral base value = '0' :: rest) : value = 0 ∧ rest = [] := by
  induction value using Nat.strongRecOn generalizing rest with
  | ind value ih =>
      unfold numeral at h ih
      rw [Nat.toDigits_eq_if many] at h
      split at h
      · injection h with digit none
        exact ⟨Nat.digitChar_eq_zero.mp digit, none.symm⟩
      · next long =>
          have smaller : value / base < value := Nat.div_lt_self (by omega) many
          have positive : 0 < value / base := Nat.div_pos (by omega) (by omega)
          -- the digits in front are a numeral themselves, and not the one of zero
          cases front : Nat.toDigits base (value / base) with
          | nil => exact absurd front Nat.toDigits_ne_nil
          | cons c digits =>
              rw [front, List.cons_append] at h
              injection h with first _
              subst first
              have zero := (ih (value / base) smaller front).1
              omega

omit many small in
theorem numeral_ne_nil (value : Nat) : numeral base value ≠ [] := Nat.toDigits_ne_nil

omit small in
theorem length_numeral_le {value most : Nat} (positive : 0 < most) (h : value < base ^ most) :
    (numeral base value).length ≤ most :=
  (Nat.length_toDigits_le_iff many positive).mpr h

end Numerals

/-! ## Decimal digits -/

/-- In decimal a digit has no second spelling. -/
theorem digitChar_of_digitValue? {c : Char} {value : Nat} (h : digitValue? 10 c = some value) :
    Nat.digitChar value = c := by
  obtain ⟨code, below⟩ := Option.filter_eq_some_iff.mp h
  have small : value < 10 := of_decide_eq_true below
  have same : c.toNat = value + 48 := by
    simp only [Bool.and_eq_true, decide_eq_true_eq] at code
    split at code
    · have := Option.some.inj code
      omega
    · -- the letters stand for ten and more
      split at code
      · have := Option.some.inj code
        omega
      · split at code
        · have := Option.some.inj code
          omega
        · cases code
  have digits : ∀ value < 10, Nat.digitChar value = Char.ofNat (value + 48) := by decide
  rw [digits value small, ← same, Char.ofNat_toNat]

theorem valueOf_append_singleton (base : Nat) (front : Text) (c : Char) :
    valueOf base (front ++ [c]) = valueOf base front * base + (digitValue? base c).getD 0 := by
  unfold valueOf
  rw [List.foldl_append]
  rfl

/-- Decimal digits without a zero in front are the numeral of their value. -/
theorem decimal_valueOf {digits : Text} (all : ∀ c ∈ digits, isDigitOf 10 c = true)
    (some : digits ≠ []) (plain : ∀ rest, digits = '0' :: rest → rest = []) :
    decimal (valueOf 10 digits) = digits := by
  induction digits using List.reverseRecOn with
  | nil => exact absurd rfl some
  | append_singleton front c ih =>
      obtain ⟨value, digit⟩ := Option.isSome_iff_exists.mp (all c (by simp))
      have small : value < 10 := of_decide_eq_true (Option.filter_eq_some_iff.mp digit).2
      have written := digitChar_of_digitValue? digit
      rw [valueOf_append_singleton, digit, Option.getD_some]
      unfold decimal numeral at ih ⊢
      rw [Nat.toDigits_eq_if (by decide)]
      cases front with
      | nil =>
          have single : valueOf 10 [] * 10 + value = value := Nat.zero_add value
          rw [single, if_pos small, written, List.nil_append]
      | cons d front =>
          -- the digits in front do not begin with a zero, so they are a numeral of their own
          have nonzero : d ≠ '0' := by
            rintro rfl
            exact absurd (plain (front ++ [c]) rfl) (by simp)
          have before := ih (fun e mem => all e (List.mem_append_left _ mem)) (by simp)
            fun rest same => absurd (List.cons.inj same).1 nonzero
          have positive : valueOf 10 (d :: front) ≠ 0 := by
            intro zero
            rw [zero] at before
            exact nonzero (List.cons.inj before).1.symm
          rw [if_neg (by omega), Nat.mul_comm, Nat.mul_add_div (by decide),
            Nat.div_eq_of_lt small, Nat.add_zero, before, Nat.mul_add_mod, Nat.mod_eq_of_lt small,
            written]

/-! ## Numerals in a text -/

/-- The text does not go on with a digit of the base. -/
def NoDigit (base : Nat) (s : Text) : Prop := ∀ c ∈ s.head?, isDigitOf base c = false

theorem noDigit_nil (base : Nat) : NoDigit base [] := by
  intro c impossible
  exact absurd impossible (by simp)

theorem noDigit_cons {base : Nat} {c : Char} (h : isDigitOf base c = false) (s : Text) :
    NoDigit base (c :: s) := by
  intro d first
  rw [← Option.some.inj first]
  exact h

theorem noDigit_dropWhile (base : Nat) (s : Text) :
    NoDigit base (s.dropWhile (isDigitOf base)) := by
  intro c first
  have stopped := List.head?_dropWhile_not (isDigitOf base) s
  rw [Option.mem_def.mp first] at stopped
  exact stopped

theorem noDigit_iff_takeWhile {base : Nat} {s : Text} :
    NoDigit base s ↔ s.takeWhile (isDigitOf base) = [] := by
  cases s with
  | nil => simp [NoDigit]
  | cons c s => cases digit : isDigitOf base c <;> simp [NoDigit, digit]

theorem NoDigit.mono {small large : Nat} (h : small ≤ large) {s : Text}
    (stops : NoDigit large s) : NoDigit small s := by
  intro c first
  by_contra digit
  rw [Bool.not_eq_false] at digit
  exact Bool.false_ne_true ((stops c first).symm.trans (isDigitOf_mono h digit))

theorem spanDigits_append {base : Nat} {digits rest : Text}
    (all : ∀ c ∈ digits, isDigitOf base c = true) (stops : NoDigit base rest) :
    spanDigits base (digits ++ rest) = (digits, rest) := by
  have ends : rest.takeWhile (isDigitOf base) = [] ∧
      rest.dropWhile (isDigitOf base) = rest := by
    cases rest with
    | nil => exact ⟨rfl, rfl⟩
    | cons c rest => simp [stops c rfl]
  unfold spanDigits
  rw [List.takeWhile_append_of_pos all, List.dropWhile_append_of_pos all, ends.1, ends.2,
    List.append_nil]

theorem spanDigits_numeral {base : Nat} (many : 1 < base) (small : base ≤ 16) (value : Nat)
    {rest : Text} (stops : NoDigit base rest) :
    spanDigits base (numeral base value ++ rest) = (numeral base value, rest) :=
  spanDigits_append (isDigitOf_of_mem_numeral many small value) stops

end ClientOrigin.Text
