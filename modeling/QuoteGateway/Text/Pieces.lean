/-!
# Pieces between separators

A text with `n` separators has `n + 1` pieces, empty ones included, and joining the pieces with
the separator gives the text back.
-/

namespace QuoteGateway.Text

def pieces (separator : Char) : List Char → List (List Char)
  | [] => [[]]
  | c :: rest =>
    if c = separator then [] :: pieces separator rest
    else match pieces separator rest with
      | [] => [[c]]
      | piece :: others => (c :: piece) :: others

/-- Pieces written one after the other with a separator between neighbours. -/
def joined (separator : Char) : List (List Char) → List Char
  | [] => []
  | [piece] => piece
  | piece :: others => piece ++ separator :: joined separator others

theorem pieces_ne_nil (separator : Char) (cs : List Char) : pieces separator cs ≠ [] := by
  cases cs with
  | nil => simp [pieces]
  | cons c rest =>
    unfold pieces
    split
    · simp
    · split <;> simp

theorem joined_pieces (separator : Char) (cs : List Char) :
    joined separator (pieces separator cs) = cs := by
  induction cs with
  | nil => rfl
  | cons c rest ih =>
    have nonempty := pieces_ne_nil separator rest
    unfold pieces
    split
    · rename_i h
      subst h
      cases found : pieces c rest with
      | nil => exact absurd found nonempty
      | cons piece others => rw [found] at ih; simp [joined, ih]
    · split
      · rename_i found
        exact absurd found nonempty
      · rename_i piece others found
        rw [found] at ih
        cases others with
        | nil => simpa [joined] using ih
        | cons other more => simpa [joined] using ih

end QuoteGateway.Text
