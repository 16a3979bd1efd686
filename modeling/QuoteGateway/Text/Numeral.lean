/-!
# Numerals

Decimal numerals of whole numbers: written without leading zeros, read with an optional sign and
any number of leading zeros.
-/

namespace QuoteGateway.Text

def integerNumeral (i : Int) : List Char :=
  match i with
  | .ofNat n => Nat.toDigits 10 n
  | .negSucc n => '-' :: Nat.toDigits 10 (n + 1)

def natural? (cs : List Char) : Option Nat :=
  if cs.isEmpty || !cs.all Char.isDigit then none else some (Nat.ofDigitChars 10 cs 0)

def integer? (cs : List Char) : Option Int :=
  match cs with
  | '-' :: digits => (natural? digits).map fun n => -(n : Int)
  | '+' :: digits => (natural? digits).map Int.ofNat
  | digits => (natural? digits).map Int.ofNat

def signed64? (cs : List Char) : Option Int64 :=
  (integer? cs).bind fun i =>
    if Int64.minValue.toInt ≤ i ∧ i ≤ Int64.maxValue.toInt then some (Int64.ofInt i) else none

/-- An unsigned 64-bit number, in decimal digits with an optional plus sign. -/
def unsigned64? (cs : List Char) : Option UInt64 :=
  let digits := match cs with
    | '+' :: digits => digits
    | digits => digits
  (natural? digits).bind fun n => if n < UInt64.size then some (UInt64.ofNat n) else none

def hexDigit? (c : Char) : Option Nat :=
  if '0' ≤ c ∧ c ≤ '9' then some (c.toNat - 48)
  else if 'a' ≤ c ∧ c ≤ 'f' then some (c.toNat - 87)
  else if 'A' ≤ c ∧ c ≤ 'F' then some (c.toNat - 55)
  else none

end QuoteGateway.Text
