import QuoteGateway.Proofs.Calendar.Walk

/-!
# Dates of day numbers

Every day number has a date. Its year is guessed and set right by one at most, and its month is
found by taking the lengths of the months off one after the other.
-/

namespace QuoteGateway.Calendar

theorem yearOf_bounds (day : Int) :
    daysBeforeYear (yearOf day) ≤ day ∧ day < daysBeforeYear (yearOf day + 1) := by
  -- Years are never longer or shorter than the mean by as much as a year in all.
  have close : daysBeforeYear (day * 400 / 146097 - 1) ≤ day ∧
      day < daysBeforeYear (day * 400 / 146097 + 1 + 1) := by
    unfold daysBeforeYear
    omega
  simp only [yearOf]
  split_ifs with early late
  · rw [Int.sub_add_cancel]
    exact ⟨close.1, early⟩
  · exact ⟨late, close.2⟩
  · exact ⟨Int.not_lt.mp early, Int.not_le.mp late⟩

/-- The month of a day is the one before which the other months leave less than its length. -/
theorem exists_monthAndDay {lengths : List Nat} {day : Nat} (within : day < lengths.sum)
    (month : Nat) : ∃ before length after, lengths = before ++ length :: after ∧
      before.sum ≤ day ∧ day < before.sum + length ∧
      monthAndDay lengths month day = (month + before.length, day - before.sum + 1) := by
  induction lengths generalizing month day with
  | nil => cases within
  | cons first lengths ih =>
    rw [List.sum_cons] at within
    by_cases here : day < first
    · refine ⟨[], first, lengths, rfl, Nat.zero_le _, ?_, ?_⟩
      · rwa [List.sum_nil, Nat.zero_add]
      · rw [monthAndDay, if_pos here]
        rfl
    · have later : day - first < lengths.sum := by omega
      obtain ⟨before, length, after, rfl, starts, ends, found⟩ := ih later (month + 1)
      refine ⟨first :: before, length, after, rfl, ?_, ?_, ?_⟩
      · rw [List.sum_cons]
        omega
      · rw [List.sum_cons]
        omega
      · rw [monthAndDay, if_neg here, found, List.length_cons, List.sum_cons, Nat.sub_sub,
          Nat.add_assoc, Nat.add_comm 1]

namespace Date

variable {before after : List Nat} {length : Nat} {year : Int}

theorem monthLength_of_split (split : monthLengths year = before ++ length :: after) :
    monthLength year (1 + before.length) = length := by
  rw [monthLength, if_neg (by omega), split]
  simp

theorem daysBeforeMonth_of_split (split : monthLengths year = before ++ length :: after) :
    daysBeforeMonth year (1 + before.length) = before.sum := by
  rw [daysBeforeMonth, split, Nat.add_sub_cancel_left, List.take_left, List.sum_eq_foldl]

/-- The calendar has the date of a day number, and it has this number. -/
theorem ofNumber_spec (number : Int) :
    (ofNumber number).exists = true ∧ (ofNumber number).number = number := by
  obtain ⟨starts, ends⟩ := yearOf_bounds (number + epochDay)
  simp only [ofNumber]
  generalize yearOf (number + epochDay) = year at starts ends ⊢
  have whole : daysBeforeMonth year 13 = (monthLengths year).sum := List.sum_eq_foldl.symm
  rw [daysBeforeYear_succ, whole] at ends
  have within : (number + epochDay - daysBeforeYear year).toNat < (monthLengths year).sum := by
    omega
  obtain ⟨before, length, after, split, low, high, found⟩ := exists_monthAndDay within 1
  rw [found]
  constructor
  · apply exists_of_bounds (Nat.le_add_left 1 _)
    simp only [monthLength_of_split split]
    omega
  · simp only [Date.number, daysBeforeMonth_of_split split]
    omega

end Date

end QuoteGateway.Calendar
