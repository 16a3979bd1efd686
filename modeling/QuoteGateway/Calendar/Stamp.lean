import QuoteGateway.Calendar.Instant
import QuoteGateway.Text.WhiteSpace
import QuoteGateway.Text.Numeral

/-!
# Parts of written dates and times

Numbers in a written date may follow white space and are checked as they are read. What is left of
a text after a part is handed to the next part.
-/

namespace QuoteGateway.Calendar

inductive StampError where
  | tooShort
  | invalid
  | outOfRange
  | impossible
  | trailing
deriving DecidableEq

def StampError.message : StampError → String
  | .tooShort => "premature end of input"
  | .invalid => "input contains invalid characters"
  | .outOfRange => "input is out of range"
  | .impossible => "no possible date and time matching input"
  | .trailing => "trailing input"

abbrev Part (α : Type) := List Char → Except StampError (α × List Char)

def skipWhite (cs : List Char) : List Char := cs.dropWhile Text.isWhiteSpace

/-- Digits at the start of a text: one at least and `width` at most, if there is a width. -/
def digits (width : Option Nat) : Part Nat := fun cs =>
  let run := cs.takeWhile Char.isDigit
  let taken := match width with
    | some n => run.take n
    | none => run
  if cs.isEmpty then .error .tooShort
  else if taken.isEmpty then .error .invalid
  else
    let n := Nat.ofDigitChars 10 taken 0
    if n ≤ Int64.maxValue.toInt then .ok (n, cs.drop taken.length) else .error .outOfRange

def twoDigits (low high : Nat) : Part Nat := fun cs => do
  let (n, rest) ← digits (some 2) (skipWhite cs)
  if low ≤ n ∧ n ≤ high then .ok (n, rest) else .error .outOfRange

/-- A year: four digits at most, or a sign and any number of digits, after white space. -/
def yearPart : Part Int := fun cs => do
  let (year, rest) ← match skipWhite cs with
    | '-' :: rest => (digits none rest).map fun (n, rest) => (-(n : Int), rest)
    | '+' :: rest => (digits none rest).map fun (n, rest) => ((n : Int), rest)
    | rest => (digits (some 4) rest).map fun (n, rest) => ((n : Int), rest)
  if Int32.minValue.toInt ≤ year ∧ year ≤ Int32.maxValue.toInt then .ok (year, rest)
  else .error .outOfRange

def afterMark (mark : Char) (cs : List Char) : Except StampError (List Char) :=
  match cs with
  | [] => .error .tooShort
  | c :: rest => if c = mark then .ok rest else .error .invalid

/-- A date as year, month and day with hyphens between them. `gap` is what may stand before a
hyphen. -/
def datePart (gap : List Char → List Char) : Part Date := fun cs => do
  let (year, rest) ← yearPart cs
  let (month, rest) ← twoDigits 1 12 (← afterMark '-' (gap rest))
  let (day, rest) ← twoDigits 1 31 (← afterMark '-' (gap rest))
  .ok (⟨year, month, day⟩, rest)

/-- A time of day. Second 60 is a leap second. -/
structure Clock where
  hour : Nat
  minute : Nat
  second : Nat
deriving DecidableEq

def clockPart (gap : List Char → List Char) : Part Clock := fun cs => do
  let (hour, rest) ← twoDigits 0 23 cs
  let (minute, rest) ← twoDigits 0 59 (← afterMark ':' (gap rest))
  let (second, rest) ← twoDigits 0 60 (← afterMark ':' (gap rest))
  .ok (⟨hour, minute, second⟩, rest)

def Clock.secondOfDay (clock : Clock) : Nat :=
  clock.hour * 3600 + clock.minute * 60 + min clock.second 59

def leastYear : Int := -262143
def greatestYear : Int := 262142

/-- The seconds from 1970-01-01 to a date and time, if the calendar has the date. -/
def secondsOf (date : Date) (clock : Clock) : Except StampError Int :=
  if leastYear ≤ date.year ∧ date.year ≤ greatestYear ∧ date.exists then
    .ok (date.number * secondsPerDay + clock.secondOfDay)
  else .error .outOfRange

end QuoteGateway.Calendar
