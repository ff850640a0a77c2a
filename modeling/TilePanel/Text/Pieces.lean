/-!
Cutting a text at separators. Main statement: there is one piece more than there are separators.
-/

namespace TilePanel.Text

/-- Puts a character in front of the first piece of a list of pieces. -/
def consFirst (c : Char) : List (List Char) → List (List Char)
  | [] => [[c]]
  | w :: ws => (c :: w) :: ws

theorem flatten_consFirst (c : Char) (ws : List (List Char)) :
    (consFirst c ws).flatten = c :: ws.flatten := by
  cases ws <;> simp [consFirst]

private theorem length_consFirst (c : Char) (w : List Char) (ws : List (List Char)) :
    (consFirst c (w :: ws)).length = (w :: ws).length := rfl

/-- The pieces between separators, empty ones included. -/
def pieces (isSeparator : Char → Bool) : List Char → List (List Char)
  | [] => [[]]
  | c :: cs =>
    if isSeparator c then [] :: pieces isSeparator cs else consFirst c (pieces isSeparator cs)

theorem length_pieces (isSeparator : Char → Bool) (cs : List Char) :
    (pieces isSeparator cs).length = cs.countP isSeparator + 1 := by
  induction cs with
  | nil => rfl
  | cons c cs ih =>
    unfold pieces
    split
    · next h => simp [ih, List.countP_cons_of_pos h]
    · next h =>
      rw [List.countP_cons_of_neg h, ← ih]
      cases hp : pieces isSeparator cs with
      | nil => simp [hp] at ih
      | cons w ws => exact length_consFirst c w ws

/-- The pieces between separators that are not empty. -/
def words (isSeparator : Char → Bool) (cs : List Char) : List (List Char) :=
  (pieces isSeparator cs).filter fun w => !w.isEmpty

end TilePanel.Text
