/-!
# Binary floating-point numbers of 64 bits

A number is its bit pattern. `Binary64.value` says which real number the pattern stands for, and
`Binary64.nearest` finds the pattern for a quotient of whole numbers, with ties to even. All
arithmetic is exact on whole numbers and rounds once at the end.
-/

namespace QuoteGateway.Number

def tenTo (k : Nat) : Nat := Nat.pow 10 k

/-- A binary64 number, given by its bits: sign, eleven bits of exponent, 52 of fraction. -/
structure Binary64 where
  bits : UInt64
deriving DecidableEq

namespace Binary64

/-- What a bit pattern stands for. A finite number is `mantissa * 2 ^ exponent`. -/
inductive Value where
  | nan
  | infinite (negative : Bool)
  | finite (negative : Bool) (mantissa : Nat) (exponent : Int)
deriving DecidableEq

/-- The least exponent of a finite number. -/
def leastExponent : Int := -1074

def signBit : Nat := 0x8000000000000000

/-- The bit above the 52 bits of the fraction, which every mantissa has but the smallest ones. -/
def leadingBit : Nat := 0x10000000000000

def topExponent : Nat := 2047

def value (x : Binary64) : Value :=
  let n := x.bits.toNat
  let negative := n / signBit == 1
  let biased : Nat := n / leadingBit % (topExponent + 1)
  let fraction := n % leadingBit
  if biased = topExponent then
    if fraction = 0 then .infinite negative else .nan
  else if biased = 0 then .finite negative fraction leastExponent
  else .finite negative (fraction + leadingBit) ((biased : Int) + leastExponent - 1)

def ofMagnitude (negative : Bool) (magnitude : Nat) : Binary64 :=
  ⟨UInt64.ofNat (if negative then signBit + magnitude else magnitude)⟩

/-- The magnitude bits of an infinity. They exceed those of every finite number. -/
def infiniteMagnitude : Nat := topExponent * leadingBit

def zero : Binary64 := ofMagnitude false 0
def negativeZero : Binary64 := ofMagnitude true 0
def infinity : Binary64 := ofMagnitude false infiniteMagnitude
def negativeInfinity : Binary64 := ofMagnitude true infiniteMagnitude
def nan : Binary64 := ofMagnitude false (infiniteMagnitude + leadingBit / 2)

def isFinite (x : Binary64) : Bool :=
  match x.value with
  | .finite .. => true
  | _ => false

def isZero (x : Binary64) : Bool :=
  match x.value with
  | .finite _ 0 _ => true
  | _ => false

def negate (x : Binary64) : Binary64 := ⟨x.bits ^^^ 0x8000000000000000⟩

/-- A quotient rounded to a whole number, a half to the even neighbour. -/
def roundHalfEven (num den : Nat) : Nat :=
  let q := num / den
  let r := num % den
  if 2 * r < den then q
  else if den < 2 * r then q + 1
  else if q % 2 = 0 then q else q + 1

/-- `m * 2 ^ e` as a quotient of whole numbers. -/
def dyadic (m : Nat) (e : Int) : Nat × Nat :=
  if 0 ≤ e then (m <<< e.toNat, 1) else (m, 1 <<< (-e).toNat)

/-- The exponent for which a positive quotient has a mantissa of 53 bits, or the least exponent
where that would fall below it. -/
def fittingExponent (num den : Nat) : Int :=
  let a := num.log2
  let b := den.log2
  max leastExponent
    ((a : Int) - b - (if den <<< a ≤ num <<< b then 52 else 53))

/-- The magnitude bits for a mantissa of at most 53 bits. A mantissa of 2 ^ 53 carries into the
exponent by itself. -/
def magnitudeBits (mantissa : Nat) (exponent : Int) : Nat :=
  if mantissa < leadingBit then mantissa
  else (exponent - leastExponent + 1).toNat * leadingBit + (mantissa - leadingBit)

/-- The number nearest to a quotient, ties to even, infinite beyond the largest finite one. -/
def nearest (negative : Bool) (num den : Nat) : Binary64 :=
  if num = 0 then ofMagnitude negative 0
  else
    let e := fittingExponent num den
    let scaled := if 0 ≤ e then roundHalfEven num (den <<< e.toNat)
      else roundHalfEven (num <<< (-e).toNat) den
    ofMagnitude negative (min infiniteMagnitude (magnitudeBits scaled e))

def ofNat (n : Nat) : Binary64 := nearest false n 1

def ofInt (i : Int) : Binary64 :=
  match i with
  | .ofNat n => nearest false n 1
  | .negSucc n => nearest true (n + 1) 1

def times (x y : Binary64) : Binary64 :=
  match x.value, y.value with
  | .finite s m e, .finite t n f =>
    let (num, den) := dyadic (m * n) (e + f)
    nearest (s != t) num den
  | _, _ => nan

def dividedBy (x y : Binary64) : Binary64 :=
  match x.value, y.value with
  | .finite s m e, .finite t n f =>
    if n = 0 then nan
    else
      let (num, den) := dyadic m (e - f)
      nearest (s != t) num (den * n)
  | _, _ => nan

/-- The number nearest to `digits * 10 ^ exponent`. Numbers of more than 400 digits before or
after the point are beyond the range, whatever their digits. -/
def ofDecimal (negative : Bool) (digits : Nat) (exponent : Int) : Binary64 :=
  let size := (Nat.toDigits 10 digits).length
  if digits = 0 then ofMagnitude negative 0
  else if exponent + size > 400 then ofMagnitude negative infiniteMagnitude
  else if exponent + size < -400 then ofMagnitude negative 0
  else if 0 ≤ exponent then nearest negative (digits * tenTo exponent.toNat) 1
  else nearest negative digits (tenTo (-exponent).toNat)

/-- A number rounded to an integer, a half away from zero, and clamped to a range. Not a number
gives zero. -/
def clampedRound (x : Binary64) (low high : Int) : Int :=
  match x.value with
  | .nan => 0
  | .infinite negative => if negative then low else high
  | .finite negative m e =>
    let (num, den) := dyadic m e
    let whole : Int := (2 * num + den) / (2 * den)
    max low (min high (if negative then -whole else whole))

end Binary64

end QuoteGateway.Number
