import QuoteGateway.Text.Pieces

/-!
# Joined pieces

The pieces of a text hold no separator, and pieces without separators are found again in the text
that joins them.
-/

namespace QuoteGateway.Text

theorem separator_notMem_pieces (separator : Char) (cs : List Char) :
    ∀ piece ∈ pieces separator cs, separator ∉ piece := by
  induction cs with
  | nil => simp [pieces]
  | cons c rest ih =>
    rw [pieces]
    split
    · intro piece hpiece
      rcases List.mem_cons.mp hpiece with rfl | later
      · exact List.not_mem_nil
      · exact ih piece later
    · rename_i differs
      split
      · intro piece hpiece
        obtain rfl := List.mem_singleton.mp hpiece
        rw [List.mem_singleton]
        exact fun same => differs same.symm
      · rename_i first others found
        rw [found] at ih
        intro piece hpiece
        rcases List.mem_cons.mp hpiece with rfl | later
        · rw [List.mem_cons, not_or]
          exact ⟨fun same => differs same.symm, ih first List.mem_cons_self⟩
        · exact ih piece (List.mem_cons_of_mem first later)

variable {separator : Char} {piece : List Char}

theorem pieces_append (free : separator ∉ piece) (rest : List Char) :
    pieces separator (piece ++ separator :: rest) = piece :: pieces separator rest := by
  induction piece with
  | nil => exact if_pos rfl
  | cons c piece ih =>
    have other : c ≠ separator := fun same => free (same ▸ List.mem_cons_self)
    rw [List.cons_append, pieces, if_neg other, ih fun mem => free (List.mem_cons_of_mem _ mem)]

theorem pieces_of_notMem (free : separator ∉ piece) : pieces separator piece = [piece] := by
  induction piece with
  | nil => rfl
  | cons c piece ih =>
    have other : c ≠ separator := fun same => free (same ▸ List.mem_cons_self)
    rw [pieces, if_neg other, ih fun mem => free (List.mem_cons_of_mem _ mem)]

theorem subset_joined (separator : Char) {parts : List (List Char)} (h : piece ∈ parts) :
    piece ⊆ joined separator parts := by
  induction parts with
  | nil => exact absurd h List.not_mem_nil
  | cons part parts ih =>
    cases parts with
    | nil =>
      rw [List.mem_singleton.mp h]
      exact List.Subset.refl _
    | cons next others =>
      change piece ⊆ part ++ separator :: joined separator (next :: others)
      rcases List.mem_cons.mp h with rfl | later
      · exact List.subset_append_left _ _
      · intro c member
        exact List.mem_append_right _ (List.mem_cons_of_mem _ (ih later member))

theorem subset_of_mem_pieces {cs : List Char} (h : piece ∈ pieces separator cs) : piece ⊆ cs := by
  have inside := subset_joined separator h
  rwa [joined_pieces] at inside

/-- Joined pieces are found again, provided that none of them has a separator. -/
theorem pieces_joined {parts : List (List Char)} (nonempty : parts ≠ [])
    (free : ∀ part ∈ parts, separator ∉ part) : pieces separator (joined separator parts) = parts := by
  induction parts with
  | nil => exact absurd rfl nonempty
  | cons part parts ih =>
    have first := free part List.mem_cons_self
    cases parts with
    | nil => exact pieces_of_notMem first
    | cons next others =>
      rw [joined, pieces_append first, ih (List.cons_ne_nil _ _) fun part mem =>
        free part (List.mem_cons_of_mem _ mem)]
      exact List.cons_ne_nil _ _

end QuoteGateway.Text
