import QuoteGateway.Calendar.Stamp

/-!
# Internet date and time format

Instants are written in universal time with as many fraction digits as they need, in groups of
three. Reading is lenient: blanks may stand around the parts, the letters may be small, the parts
of the date and time may have one digit, and any offset below a day is taken into account.
-/

namespace QuoteGateway.Calendar

def padded (width n : Nat) : List Char :=
  let digits := Nat.toDigits 10 n
  List.replicate (width - digits.length) '0' ++ digits

/-- A year in four digits, with a sign before it unless it is in 0 to 9999. -/
def writeYear (year : Int) : List Char :=
  if 0 ≤ year ∧ year ≤ 9999 then padded 4 year.toNat
  else (if year < 0 then '-' else '+') :: padded 4 year.natAbs

/-- The fraction of a second in three, six or nine digits, or nothing. -/
def writeFraction (nanos : Nat) : List Char :=
  if nanos = 0 then []
  else if nanos % 1000000 = 0 then '.' :: padded 3 (nanos / 1000000)
  else if nanos % 1000 = 0 then '.' :: padded 6 (nanos / 1000)
  else '.' :: padded 9 nanos

def Instant.write (t : Instant) : List Char :=
  let date := t.date
  let s := t.secondOfDay
  let second := if nanosPerSecond ≤ t.nanos then s % 60 + 1 else s % 60
  writeYear date.year ++ '-' :: padded 2 date.month ++ '-' :: padded 2 date.day ++
    'T' :: padded 2 (s / 3600) ++ ':' :: padded 2 (s / 60 % 60) ++ ':' :: padded 2 second ++
    writeFraction (t.nanos % nanosPerSecond) ++ ['Z']

/-- The nanoseconds after a decimal point, if there is one. Digits after the ninth are dropped. -/
def fractionPart : Part Nat := fun cs =>
  match cs with
  | '.' :: rest => do
    let (n, after) ← digits (some 9) rest
    let scale := Nat.pow 10 (9 - (rest.length - after.length))
    .ok (n * scale, after.dropWhile Char.isDigit)
  | _ => .ok (0, cs)

def digitPair : Part (Char × Char) := fun cs =>
  match cs with
  | a :: b :: rest => if a.isDigit && b.isDigit then .ok ((a, b), rest) else .error .invalid
  | [c] => if c.utf8Size < 2 then .error .tooShort else .error .invalid
  | [] => .error .tooShort

def pairValue (pair : Char × Char) : Nat := (pair.1.toNat - 48) * 10 + (pair.2.toNat - 48)

def offsetSign : Part Bool := fun cs =>
  match cs with
  | [] => .error .tooShort
  | '+' :: rest => .ok (false, rest)
  | '-' :: rest => .ok (true, rest)
  | '−' :: rest => .ok (true, rest)
  | _ => .error .invalid

def offsetPart : Part Int := fun cs =>
  match cs with
  | 'Z' :: rest => .ok (0, rest)
  | 'z' :: rest => .ok (0, rest)
  | _ => do
    let (negative, rest) ← offsetSign cs
    let (hours, rest) ← digitPair rest
    let rest := rest.dropWhile fun c => c == ':' || Text.isWhiteSpace c
    let (minutes, rest) ← digitPair rest
    if 60 ≤ pairValue minutes then .error .outOfRange
    else
      let seconds : Int := pairValue hours * 3600 + pairValue minutes * 60
      .ok (if negative then -seconds else seconds, rest)

def zonePart : Part Int := fun cs =>
  match cs with
  | a :: b :: c :: rest =>
    if [a, b, c].map Char.toUpper = ['U', 'T', 'C'] then .ok (0, rest) else offsetPart cs
  | _ => offsetPart cs

def Instant.read (s : String) : Except StampError Instant := do
  let (date, rest) ← datePart skipWhite s.toList
  let rest ← match rest with
    | [] => .error .tooShort
    | c :: rest => if c = 'T' ∨ c = 't' ∨ c = ' ' then .ok rest else .error .invalid
  let (clock, rest) ← clockPart skipWhite rest
  let (nanos, rest) ← fractionPart rest
  let (offset, rest) ← zonePart (skipWhite rest)
  if !(skipWhite rest).isEmpty then .error .trailing
  else
    let seconds ← secondsOf date clock
    let nanos := if clock.second = 60 then nanosPerSecond + nanos else nanos
    if secondsPerDay ≤ offset ∨ offset ≤ -secondsPerDay then .error .outOfRange
    else match Instant.of? (seconds - offset) nanos with
      | some t => .ok t
      | none => .error .impossible

end QuoteGateway.Calendar
