import ClientOrigin.Text.Utf8

/-!
# Decoding piece by piece

A byte of ASCII never continues a character, so the lossy decoder may be stopped in front
of one and started afresh behind it: bytes that are cut off in the middle of a character
do not swallow what follows.  The main fact is `decodeLossy_append_ascii`.
-/

namespace ClientOrigin.Text

/-- The character that stands open, if there is one, goes on above ASCII. -/
def GoesOnAboveAscii (state : Option Unfinished) : Prop := ∀ u, state = some u → 0x80 ≤ u.least

theorem goesOnAboveAscii_none : GoesOnAboveAscii none := by
  intro u equal
  exact absurd equal (Option.some_ne_none u).symm

theorem goesOnAboveAscii_some {u : Unfinished} (h : 0x80 ≤ u.least) :
    GoesOnAboveAscii (some u) := by
  intro v equal
  injection equal with equal
  subst equal
  exact h

/-- A first byte opens a character that goes on above ASCII. -/
theorem least_of_lead {b : UInt8} {u : Unfinished} (h : lead b = .opens u) : 0x80 ≤ u.least := by
  simp only [lead] at h
  repeat' split at h
  all_goals
    cases h <;> exact Nat.le_of_ble_eq_true rfl

/-- No byte makes the decoder wait for a byte of ASCII. -/
theorem goesOnAboveAscii_lossyStep {state : Option Unfinished} (h : GoesOnAboveAscii state)
    (b : UInt8) : GoesOnAboveAscii (lossyStep state b).2 := by
  cases state with
  | none =>
      rw [lossyStep]
      split
      · exact goesOnAboveAscii_none
      · next u opens => exact goesOnAboveAscii_some (least_of_lead opens)
      · exact goesOnAboveAscii_none
  | some v =>
      rw [lossyStep]
      split
      · split
        · exact goesOnAboveAscii_none
        · exact goesOnAboveAscii_some (Nat.le_refl 0x80)
      · split
        · exact goesOnAboveAscii_none
        · next u opens => exact goesOnAboveAscii_some (least_of_lead opens)
        · exact goesOnAboveAscii_none

theorem lead_ascii {b : UInt8} (h : b.toNat < 0x80) : lead b = .ascii (Char.ofNat b.toNat) :=
  if_pos h

theorem lossyFrom_cons (state : Option Unfinished) (b : UInt8) (rest : Bytes) :
    lossyFrom state (b :: rest) =
      (lossyStep state b).1 ++ lossyFrom (lossyStep state b).2 rest := by
  cases state <;> rfl

/-- A byte of ASCII is written as it is, after what the decoder would write at the end. -/
theorem lossyStep_ascii {b : UInt8} (h : b.toNat < 0x80) {state : Option Unfinished}
    (above : GoesOnAboveAscii state) :
    lossyStep state b = (lossyFrom state [] ++ [Char.ofNat b.toNat], none) := by
  cases state with
  | none => simp only [lossyStep, lead_ascii h, lossyFrom, List.nil_append]
  | some u =>
      -- a character that stands open is given up in front of ASCII, as at the end of the bytes
      have refused : u.accepts b = false := by
        have least := above u rfl
        unfold Unfinished.accepts
        rw [decide_eq_false (by omega), Bool.false_and]
      simp only [lossyStep, refused, Bool.false_eq_true, if_false, lead_ascii h, lossyFrom,
        List.singleton_append]

theorem lossyFrom_append_ascii {b : UInt8} (h : b.toNat < 0x80) (front rest : Bytes)
    {state : Option Unfinished} (above : GoesOnAboveAscii state) :
    lossyFrom state (front ++ b :: rest) =
      lossyFrom state front ++ Char.ofNat b.toNat :: lossyFrom none rest := by
  induction front generalizing state with
  | nil =>
      rw [List.nil_append, lossyFrom_cons, lossyStep_ascii h above, List.append_assoc]
      rfl
  | cons c front ih =>
      rw [List.cons_append, lossyFrom_cons, lossyFrom_cons,
        ih (goesOnAboveAscii_lossyStep above c), List.append_assoc]

/-- Bytes on the two sides of a byte of ASCII are decoded on their own. -/
theorem decodeLossy_append_ascii {b : UInt8} (h : b.toNat < 0x80) (front rest : Bytes) :
    decodeLossy (front ++ b :: rest) =
      decodeLossy front ++ Char.ofNat b.toNat :: decodeLossy rest :=
  lossyFrom_append_ascii h front rest goesOnAboveAscii_none

end ClientOrigin.Text
