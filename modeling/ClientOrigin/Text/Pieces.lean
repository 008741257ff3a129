import ClientOrigin.Text.Blank

/-!
# Cutting at a separator

A list is cut into the pieces between its separators, and pieces are joined again.  There is one
piece more than there are separators, so the empty list has one (empty) piece.
-/

namespace ClientOrigin.Text

/-- The pieces of a list between the elements equal to `sep`. -/
def pieces {α : Type} [DecidableEq α] (sep : α) : List α → List (List α)
  | [] => [[]]
  | a :: rest =>
    if a = sep then [] :: pieces sep rest
    else
      match pieces sep rest with
      | [] => [[a]]
      | piece :: others => (a :: piece) :: others

/-- Pieces written one after another with `sep` between them. -/
def joined {α : Type} (sep : List α) : List (List α) → List α
  | [] => []
  | [piece] => piece
  | piece :: others => piece ++ sep ++ joined sep others

/-- The parts before and after the first `sep`; none if there is no separator. -/
def cutFirst? {α : Type} [DecidableEq α] (sep : α) : List α → Option (List α × List α)
  | [] => none
  | a :: rest =>
    if a = sep then some ([], rest)
    else (cutFirst? sep rest).map fun parts => (a :: parts.1, parts.2)

/-- The parts before and after the last `sep`; none if there is no separator. -/
def cutLast? {α : Type} [DecidableEq α] (sep : α) (s : List α) : Option (List α × List α) :=
  (cutFirst? sep s.reverse).map fun parts => (parts.2.reverse, parts.1.reverse)

/-- What follows `start` in a list that begins with it. -/
def after? {α : Type} [DecidableEq α] : (start s : List α) → Option (List α)
  | [], s => some s
  | _ :: _, [] => none
  | a :: start, b :: s => if a = b then after? start s else none

/-- Pieces always has at least one piece. -/
theorem pieces_ne_nil {α : Type} [DecidableEq α] (sep : α) (s : List α) : pieces sep s ≠ [] := by
  cases s with
  | nil => simp [pieces]
  | cons a rest =>
    unfold pieces
    split
    · simp
    · split <;> simp

end ClientOrigin.Text
