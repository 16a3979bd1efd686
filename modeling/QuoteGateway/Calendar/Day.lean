/-!
# Days of the calendar

Dates of the Gregorian calendar, extended to all years, and their numbers counted from 1970-01-01.
-/

namespace QuoteGateway.Calendar

structure Date where
  year : Int
  month : Nat
  day : Nat
deriving DecidableEq

def isLeapYear (year : Int) : Bool := year % 4 = 0 && (year % 100 ≠ 0 || year % 400 = 0)

def monthLengths (year : Int) : List Nat :=
  [31, if isLeapYear year then 29 else 28, 31, 30, 31, 30, 31, 31, 30, 31, 30, 31]

/-- The length of a month, or zero where there is no such month. -/
def monthLength (year : Int) (month : Nat) : Nat :=
  if month = 0 then 0 else (monthLengths year).getD (month - 1) 0

def Date.exists (date : Date) : Bool :=
  1 ≤ date.day && date.day ≤ monthLength date.year date.month

/-- The days from the first day of year 0 to the first day of a year. -/
def daysBeforeYear (year : Int) : Int :=
  365 * year + (year + 3) / 4 - (year + 99) / 100 + (year + 399) / 400

def daysBeforeMonth (year : Int) (month : Nat) : Nat :=
  ((monthLengths year).take (month - 1)).foldl (· + ·) 0

def epochDay : Int := 719528

/-- The number of a date, counted from 1970-01-01. -/
def Date.number (date : Date) : Int :=
  daysBeforeYear date.year + daysBeforeMonth date.year date.month + date.day - 1 - epochDay

def yearOf (day : Int) : Int :=
  let guess := day * 400 / 146097
  if day < daysBeforeYear guess then guess - 1
  else if daysBeforeYear (guess + 1) ≤ day then guess + 1
  else guess

/-- The month and the day of the month, for a day counted from the start of a month. -/
def monthAndDay : List Nat → (month : Nat) → (day : Nat) → Nat × Nat
  | [], month, day => (month, day + 1)
  | length :: lengths, month, day =>
    if day < length then (month, day + 1) else monthAndDay lengths (month + 1) (day - length)

def Date.ofNumber (number : Int) : Date :=
  let day := number + epochDay
  let year := yearOf day
  let (month, dayOfMonth) := monthAndDay (monthLengths year) 1 (day - daysBeforeYear year).toNat
  ⟨year, month, dayOfMonth⟩

end QuoteGateway.Calendar
