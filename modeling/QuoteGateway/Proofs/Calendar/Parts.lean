import Mathlib.Algebra.Group.Nat.Defs
import QuoteGateway.Calendar.Rfc3339
import QuoteGateway.Proofs.Calendar.Walk

/-!
# Reading zero-padded dates and times

Numbers written with leading zeros are read back, and what follows them is left. A number out of
its bounds is refused.
-/

namespace QuoteGateway.Calendar

variable {width n : Nat} {rest : List Char}

theorem isDigit_of_mem_padded {c : Char} (h : c ∈ padded width n) : c.isDigit = true := by
  rcases List.mem_append.mp h with zero | digit
  · rw [List.eq_of_mem_replicate zero]
    rfl
  · exact Nat.isDigit_of_mem_toDigits (by decide) (by decide) digit

theorem length_padded (positive : 0 < width) (lt : n < 10 ^ width) :
    (padded width n).length = width := by
  have le : (Nat.toDigits 10 n).length ≤ width :=
    (Nat.length_toDigits_le_iff (by decide) positive).mpr lt
  rw [padded, List.length_append, List.length_replicate, Nat.sub_add_cancel le]

theorem ofDigitChars_padded (width n : Nat) : Nat.ofDigitChars 10 (padded width n) 0 = n := by
  rw [padded, Nat.ofDigitChars_append, Nat.ofDigitChars_replicate_zero, Nat.mul_zero,
    Nat.ofDigitChars_ten_toDigits]

theorem padded_ne_nil (width n : Nat) : padded width n ≠ [] :=
  List.append_ne_nil_of_right_ne_nil _ Nat.toDigits_ne_nil

theorem exists_padded_eq_cons (width n : Nat) :
    ∃ first others, padded width n = first :: others ∧ first.isDigit = true := by
  obtain ⟨first, others, shape⟩ := List.exists_cons_of_ne_nil (padded_ne_nil width n)
  have mem : first ∈ padded width n := shape ▸ List.mem_cons_self
  exact ⟨first, others, shape, isDigit_of_mem_padded mem⟩

theorem isWhiteSpace_of_isDigit {c : Char} (h : c.isDigit = true) :
    Text.isWhiteSpace c = false := by
  have bounds := Char.isDigit_iff_toNat.mp h
  simp only [Char.reduceToNat] at bounds
  simp only [Text.isWhiteSpace, Bool.or_eq_false_iff, Bool.and_eq_false_iff, beq_eq_false_iff_ne,
    decide_eq_false_iff_not]
  omega

theorem skipWhite_padded : skipWhite (padded width n ++ rest) = padded width n ++ rest := by
  obtain ⟨first, others, shape, digit⟩ := exists_padded_eq_cons width n
  simp [shape, skipWhite, isWhiteSpace_of_isDigit digit]

theorem digits_of_take {most : Nat} (le : width ≤ 18) (positive : 0 < width) (lt : n < 10 ^ width)
    (taken : ((padded width n ++ rest).takeWhile Char.isDigit).take most = padded width n) :
    digits (some most) (padded width n ++ rest) = .ok (n, rest) := by
  have length := length_padded positive lt
  have bound : n ≤ Int64.maxValue.toInt := by
    have power : 10 ^ width ≤ 10 ^ 18 := Nat.pow_le_pow_right (by decide) le
    rw [Int64.toInt_maxValue]
    omega
  have nonempty := padded_ne_nil width n
  simp only [digits, taken, ofDigitChars_padded, bound, length, List.drop_left' length]
  simp [nonempty]

theorem digits_padded (positive : 0 < width) (le : width ≤ 18) (lt : n < 10 ^ width) :
    digits (some width) (padded width n ++ rest) = .ok (n, rest) := by
  apply digits_of_take le positive lt
  rw [List.takeWhile_append_of_pos fun _ => isDigit_of_mem_padded,
    List.take_left' (length_padded positive lt)]

theorem digits_padded_of_le {most : Nat} (positive : 0 < width) (within : width ≤ most)
    (le : width ≤ 18) (lt : n < 10 ^ width) (stops : ∀ c ∈ rest.head?, c.isDigit = false) :
    digits (some most) (padded width n ++ rest) = .ok (n, rest) := by
  apply digits_of_take le positive lt
  have none : rest.takeWhile Char.isDigit = [] := by
    cases rest with
    | nil => rfl
    | cons c rest => rw [List.takeWhile_cons_of_neg (by simp [stops c rfl])]
  rw [List.takeWhile_append_of_pos fun _ => isDigit_of_mem_padded, none, List.append_nil,
    List.take_of_length_le ((length_padded positive lt).symm ▸ within)]

variable {low high : Nat}

theorem twoDigits_padded (lt : n < 100) :
    twoDigits low high (padded 2 n ++ rest) =
      if low ≤ n ∧ n ≤ high then .ok (n, rest) else .error .outOfRange := by
  rw [twoDigits, skipWhite_padded, digits_padded (by decide) (by decide) lt]
  rfl

theorem yearPart_padded (lt : n < 10000) : yearPart (padded 4 n ++ rest) = .ok ((n : Int), rest) := by
  obtain ⟨first, others, shape, digit⟩ := exists_padded_eq_cons 4 n
  have minus : first ≠ '-' := by rintro rfl; cases digit
  have plus : first ≠ '+' := by rintro rfl; cases digit
  have unsigned : digits (some 4) (first :: (others ++ rest)) = .ok (n, rest) := by
    rw [← List.cons_append, ← shape]
    exact digits_padded (by decide) (by decide) lt
  have bounds : Int32.minValue.toInt ≤ (n : Int) ∧ (n : Int) ≤ Int32.maxValue.toInt := by
    rw [Int32.toInt_minValue, Int32.toInt_maxValue]
    omega
  rw [yearPart, skipWhite_padded, shape, List.cons_append]
  split
  · rename_i same
    exact absurd (List.cons.inj same).1 minus
  · rename_i same
    exact absurd (List.cons.inj same).1 plus
  · rw [unsigned]
    exact if_pos bounds

def Date.written (date : Date) : List Char :=
  padded 4 date.year.toNat ++ '-' :: (padded 2 date.month ++ '-' :: padded 2 date.day)

def Clock.written (clock : Clock) : List Char :=
  padded 2 clock.hour ++ ':' :: (padded 2 clock.minute ++ ':' :: padded 2 clock.second)

def Date.Fits (date : Date) : Prop :=
  (0 ≤ date.year ∧ date.year ≤ 9999) ∧ date.month ≤ 99 ∧ date.day ≤ 99

def Clock.Fits (clock : Clock) : Prop := clock.hour ≤ 99 ∧ clock.minute ≤ 99 ∧ clock.second ≤ 99

/-- The numbers of a date lie in their ranges, whatever the length of the month. -/
def Date.InRange (date : Date) : Prop :=
  (1 ≤ date.month ∧ date.month ≤ 12) ∧ 1 ≤ date.day ∧ date.day ≤ 31

def Clock.InRange (clock : Clock) : Prop :=
  clock.hour ≤ 23 ∧ clock.minute ≤ 59 ∧ clock.second ≤ 60

instance (date : Date) : Decidable date.Fits := inferInstanceAs (Decidable (_ ∧ _))

instance (clock : Clock) : Decidable clock.Fits := inferInstanceAs (Decidable (_ ∧ _))

instance (date : Date) : Decidable date.InRange := inferInstanceAs (Decidable (_ ∧ _))

instance (clock : Clock) : Decidable clock.InRange := inferInstanceAs (Decidable (_ ∧ _))

theorem Date.inRange_of_exists {date : Date} (h : date.exists = true) : date.InRange := by
  obtain ⟨months, positive, le⟩ := Date.bounds_of_exists h
  exact ⟨months, positive, le.trans (monthLength_le _ _)⟩

theorem Clock.fits_of_inRange {clock : Clock} (h : clock.InRange) : clock.Fits := by
  obtain ⟨hour, minute, second⟩ := h
  exact ⟨by omega, by omega, by omega⟩

variable {gap : List Char → List Char}

theorem afterMark_self (mark : Char) (rest : List Char) :
    afterMark mark (mark :: rest) = .ok rest := if_pos rfl

/-- A date is read as it is written, provided that the marks between its numbers are found. -/
theorem datePart_written {date : Date} (fits : date.Fits)
    (found : ∀ rest, gap ('-' :: rest) = '-' :: rest) :
    datePart gap (date.written ++ rest) =
      if date.InRange then .ok (date, rest) else .error .outOfRange := by
  obtain ⟨year, month, day⟩ := date
  obtain ⟨⟨nonneg, fourDigits⟩, month_le, day_le⟩ := fits
  simp only at nonneg fourDigits month_le day_le
  simp only [datePart, Date.written, List.append_assoc, List.cons_append]
  rw [yearPart_padded (by omega), Int.toNat_of_nonneg nonneg]
  simp only [bind, Except.bind, found, afterMark_self]
  rw [twoDigits_padded (by omega)]
  by_cases months : 1 ≤ month ∧ month ≤ 12
  · simp only [if_pos months, found, afterMark_self]
    rw [twoDigits_padded (by omega)]
    by_cases days : 1 ≤ day ∧ day ≤ 31
    · rw [if_pos days, if_pos ⟨months, days⟩]
    · rw [if_neg days, if_neg fun inRange => days inRange.2]
  · rw [if_neg months, if_neg fun inRange => months inRange.1]

theorem clockPart_written {clock : Clock} (fits : clock.Fits)
    (found : ∀ rest, gap (':' :: rest) = ':' :: rest) :
    clockPart gap (clock.written ++ rest) =
      if clock.InRange then .ok (clock, rest) else .error .outOfRange := by
  obtain ⟨hour, minute, second⟩ := clock
  obtain ⟨hour_le, minute_le, second_le⟩ := fits
  simp only at hour_le minute_le second_le
  simp only [clockPart, Clock.written, List.append_assoc, List.cons_append]
  rw [twoDigits_padded (by omega)]
  by_cases hours : 0 ≤ hour ∧ hour ≤ 23
  · simp only [if_pos hours, bind, Except.bind, found, afterMark_self]
    rw [twoDigits_padded (by omega)]
    by_cases minutes : 0 ≤ minute ∧ minute ≤ 59
    · simp only [if_pos minutes, found, afterMark_self]
      rw [twoDigits_padded (by omega)]
      by_cases seconds : 0 ≤ second ∧ second ≤ 60
      · rw [if_pos seconds, if_pos ⟨hours.2, minutes.2, seconds.2⟩]
      · rw [if_neg seconds, if_neg fun inRange => seconds ⟨Nat.zero_le _, inRange.2.2⟩]
    · rw [if_neg minutes, if_neg fun inRange => minutes ⟨Nat.zero_le _, inRange.2.1⟩]
  · rw [if_neg hours, if_neg fun inRange => hours ⟨Nat.zero_le _, inRange.1⟩]
    rfl

end QuoteGateway.Calendar
