import Mathlib.Logic.Function.Iterate
import Mathlib.Order.Monotone.Basic
import Mathlib.Tactic.IntervalCases
import QuoteGateway.Calendar.Day

/-!
# Walking through the calendar

The number of a date is the number of days that lead there from 1970-01-01, one after the other,
through the months of each year. A date further on in the calendar has a greater number.
-/

namespace QuoteGateway.Calendar

def epoch : Date := ⟨1970, 1, 1⟩

namespace Date

/-- The day after a date. -/
def next (date : Date) : Date :=
  if date.day < monthLength date.year date.month then { date with day := date.day + 1 }
  else if date.month < 12 then ⟨date.year, date.month + 1, 1⟩
  else ⟨date.year + 1, 1, 1⟩

/-- So many days lead from 1970-01-01 to a date. If the number is negative, they lead back. -/
def LiesAt (date : Date) (days : Int) : Prop :=
  next^[days.toNat] epoch = next^[(-days).toNat] date

instance (date : Date) (days : Int) : Decidable (date.LiesAt days) :=
  inferInstanceAs (Decidable (_ = _))

/-- The order of the calendar. -/
def Before (date other : Date) : Prop :=
  date.year < other.year ∨ date.year = other.year ∧
    (date.month < other.month ∨ date.month = other.month ∧ date.day < other.day)

end Date

theorem length_monthLengths (year : Int) : (monthLengths year).length = 12 := rfl

theorem monthLength_of_lt {month : Nat} (h : 12 < month) (year : Int) :
    monthLength year month = 0 := by
  have beyond : (monthLengths year).length ≤ month - 1 := by
    rw [length_monthLengths]
    omega
  rw [monthLength, if_neg (by omega), List.getD_eq_getElem?_getD, List.getElem?_eq_none beyond]
  rfl

theorem monthLength_le (year : Int) (month : Nat) : monthLength year month ≤ 31 := by
  unfold monthLength
  split
  · exact Nat.zero_le _
  · rw [List.getD_eq_getElem?_getD]
    cases found : (monthLengths year)[month - 1]? with
    | none => exact Nat.zero_le _
    | some length =>
      have all : ∀ n ∈ monthLengths year, n ≤ 31 := by
        unfold monthLengths
        cases isLeapYear year <;> decide
      exact all length (List.mem_of_getElem? found)

theorem daysBeforeMonth_succ (year : Int) {month : Nat} (h : 0 < month) :
    daysBeforeMonth year (month + 1) = daysBeforeMonth year month + monthLength year month := by
  obtain ⟨earlier, rfl⟩ : ∃ earlier, month = earlier + 1 := ⟨month - 1, by omega⟩
  simp only [daysBeforeMonth, monthLength, Nat.add_sub_cancel, Nat.succ_ne_zero, if_false,
    List.take_add_one, List.foldl_append, List.getD_eq_getElem?_getD]
  cases (monthLengths year)[earlier]? <;> rfl

theorem daysBeforeMonth_mono (year : Int) : Monotone (daysBeforeMonth year) := by
  apply monotone_nat_of_le_succ
  intro month
  rcases Nat.eq_zero_or_pos month with rfl | positive
  · exact le_rfl
  · rw [daysBeforeMonth_succ year positive]
    exact Nat.le_add_right _ _

theorem daysBeforeYear_succ (year : Int) :
    daysBeforeYear (year + 1) = daysBeforeYear year + daysBeforeMonth year 13 := by
  have months : daysBeforeMonth year 13 = if isLeapYear year then 366 else 365 := by
    unfold daysBeforeMonth monthLengths
    cases isLeapYear year <;> rfl
  rw [months, daysBeforeYear, daysBeforeYear]
  by_cases leap : isLeapYear year
  · simp only [leap, if_true]
    simp only [isLeapYear, Bool.and_eq_true, Bool.or_eq_true, decide_eq_true_eq] at leap
    omega
  · simp only [leap, Bool.false_eq_true, if_false]
    simp only [isLeapYear, Bool.and_eq_true, Bool.or_eq_true, decide_eq_true_eq] at leap
    omega

theorem daysBeforeYear_mono {year later : Int} (h : year ≤ later) :
    daysBeforeYear year ≤ daysBeforeYear later := by
  unfold daysBeforeYear
  omega

namespace Date

variable {date other : Date}

theorem bounds_of_exists (h : date.exists = true) :
    (1 ≤ date.month ∧ date.month ≤ 12) ∧
      1 ≤ date.day ∧ date.day ≤ monthLength date.year date.month := by
  simp only [Date.exists, Bool.and_eq_true, decide_eq_true_eq] at h
  refine ⟨⟨?_, ?_⟩, h⟩
  · apply Nat.pos_of_ne_zero
    intro none
    rw [none, monthLength, if_pos rfl] at h
    omega
  · by_contra beyond
    rw [monthLength_of_lt (Nat.lt_of_not_le beyond)] at h
    omega

theorem exists_of_bounds (h : 1 ≤ date.day) (le : date.day ≤ monthLength date.year date.month) :
    date.exists = true := by
  simp [Date.exists, h, le]

theorem exists_first {year : Int} {month : Nat} (h : 1 ≤ month) (le : month ≤ 12) :
    Date.exists ⟨year, month, 1⟩ = true := by
  apply exists_of_bounds le_rfl
  unfold monthLength monthLengths
  cases isLeapYear year <;> interval_cases month <;> simp

theorem exists_next (h : date.exists = true) : date.next.exists = true := by
  obtain ⟨⟨-, le⟩, -, -⟩ := bounds_of_exists h
  unfold next
  split
  · rename_i more
    exact exists_of_bounds (Nat.le_add_left 1 _) more
  · split
    · rename_i more
      exact exists_first (Nat.le_add_left 1 _) more
    · exact exists_first le_rfl (by decide)

theorem number_next (h : date.exists = true) : date.next.number = date.number + 1 := by
  obtain ⟨⟨first, le⟩, -, within⟩ := bounds_of_exists h
  have months := daysBeforeMonth_succ date.year first
  unfold next
  split
  · simp only [number]
    omega
  · rename_i more
    split
    · simp only [number]
      omega
    · have december : date.month = 12 := by omega
      have start : daysBeforeMonth (date.year + 1) 1 = 0 := rfl
      have year := daysBeforeYear_succ date.year
      simp only [december, Nat.reduceAdd] at months within more
      simp only [number, start, december]
      omega

theorem number_bounds (h : date.exists = true) :
    daysBeforeYear date.year ≤ date.number + epochDay ∧
      date.number + epochDay < daysBeforeYear (date.year + 1) := by
  obtain ⟨⟨first, le⟩, positive, within⟩ := bounds_of_exists h
  have months := daysBeforeMonth_succ date.year first
  have year : daysBeforeMonth date.year (date.month + 1) ≤ daysBeforeMonth date.year 13 :=
    daysBeforeMonth_mono _ (Nat.succ_le_succ le)
  rw [daysBeforeYear_succ]
  unfold number
  omega

theorem number_lt_number (h : date.exists = true) (h' : other.exists = true)
    (before : date.Before other) : date.number < other.number := by
  rcases before with earlier | ⟨sameYear, earlier | ⟨sameMonth, earlier⟩⟩
  · have years := daysBeforeYear_mono (Int.add_one_le_of_lt earlier)
    have ends := (number_bounds h).2
    have starts := (number_bounds h').1
    omega
  · obtain ⟨⟨first, -⟩, -, within⟩ := bounds_of_exists h
    obtain ⟨-, positive, -⟩ := bounds_of_exists h'
    have months := daysBeforeMonth_succ date.year first
    have later : daysBeforeMonth date.year (date.month + 1) ≤ daysBeforeMonth date.year other.month :=
      daysBeforeMonth_mono _ earlier
    unfold number
    rw [← sameYear]
    omega
  · unfold number
    rw [← sameYear, ← sameMonth]
    omega

theorem before_or_eq_or_before (date other : Date) :
    date.Before other ∨ date = other ∨ other.Before date := by
  obtain ⟨year, month, day⟩ := date
  obtain ⟨year', month', day'⟩ := other
  simp only [Before, mk.injEq]
  omega

/-- No two dates of the calendar have the same number. -/
theorem eq_of_number_eq (h : date.exists = true) (h' : other.exists = true)
    (same : date.number = other.number) : date = other := by
  rcases before_or_eq_or_before date other with before | equal | after
  · exact absurd same (number_lt_number h h' before).ne
  · exact equal
  · exact absurd same (number_lt_number h' h after).ne'

theorem exists_iterate (h : date.exists = true) (days : Nat) :
    (next^[days] date).exists = true := by
  induction days with
  | zero => exact h
  | succ days ih =>
    rw [Function.iterate_succ_apply']
    exact exists_next ih

theorem number_iterate (h : date.exists = true) (days : Nat) :
    (next^[days] date).number = date.number + days := by
  induction days with
  | zero => exact (Int.add_zero _).symm
  | succ days ih =>
    rw [Function.iterate_succ_apply', number_next (exists_iterate h days), ih, Nat.cast_succ,
      Int.add_assoc]

/-- The number of a date counts the days that lead there. -/
theorem liesAt_iff (h : date.exists = true) (days : Int) :
    date.LiesAt days ↔ days = date.number := by
  have zero : epoch.number = 0 := by decide
  have start : epoch.exists = true := by decide
  have there := number_iterate start days.toNat
  have back := number_iterate h (-days).toNat
  unfold LiesAt
  constructor
  · intro meet
    rw [← meet] at back
    omega
  · intro count
    apply eq_of_number_eq (exists_iterate start _) (exists_iterate h _)
    omega

end Date

/-- The day after the end of February in a leap year, and the one before the beginning. -/
example : Date.next ⟨2000, 2, 29⟩ = ⟨2000, 3, 1⟩ ∧ Date.next ⟨1969, 12, 31⟩ = epoch := by decide

end QuoteGateway.Calendar
