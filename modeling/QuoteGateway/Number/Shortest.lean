import QuoteGateway.Number.Binary64

/-!
# Shortest decimals

The shortest decimal that reads back as a given binary64 number, and among the shortest the one
nearest to it. Candidates are compared with the ends of the interval that rounds to the number in
exact arithmetic on whole numbers.
-/

namespace QuoteGateway.Number

structure Decimal where
  digits : Nat
  exponent : Int
deriving DecidableEq

namespace Decimal

/-- Both sides of a comparison of `c * 10 ^ k` with `x * 2 ^ e`, as whole numbers. -/
def balanced (c : Nat) (k : Int) (x : Nat) (e : Int) : Nat × Nat :=
  ((c * tenTo k.toNat) <<< (-e).toNat, (x * tenTo (-k).toNat) <<< e.toNat)

/-- The numbers that round to `mantissa * 2 ^ exponent` lie between two ends, given in quarters
of the last place. The gap below a power of two is half as wide as the one above it. -/
def lowerEnd (mantissa : Nat) (exponent : Int) : Nat :=
  if mantissa = Binary64.leadingBit ∧ Binary64.leastExponent < exponent then 4 * mantissa - 1
  else 4 * mantissa - 2

def upperEnd (mantissa : Nat) : Nat := 4 * mantissa + 2

/-- Whether `c * 10 ^ k` reads back as `mantissa * 2 ^ exponent`. The ends themselves do if the
mantissa is even. -/
def readsBack (c : Nat) (k : Int) (mantissa : Nat) (exponent : Int) : Bool :=
  let low := balanced c k (lowerEnd mantissa exponent) (exponent - 2)
  let high := balanced c k (upperEnd mantissa) (exponent - 2)
  if mantissa % 2 = 0 then low.2 ≤ low.1 && high.1 ≤ high.2
  else low.2 < low.1 && high.1 < high.2

/-- The position of the first digit of `mantissa * 2 ^ exponent`: 0 for the units. -/
def leadingPlace (mantissa : Nat) (exponent : Int) : Int :=
  let scaled := (mantissa * tenTo 400) <<< exponent.toNat >>> (-exponent).toNat
  (Nat.toDigits 10 scaled).length - 401

/-- The one of the two neighbours on the grid of step `10 ^ k` that reads back, and the nearer
one if both do. -/
def onGrid (k : Int) (mantissa : Nat) (exponent : Int) : Option Nat :=
  let scaled := balanced 1 k mantissa exponent
  let below := scaled.2 / scaled.1
  let twice := 2 * (scaled.2 % scaled.1)
  match readsBack below k mantissa exponent, readsBack (below + 1) k mantissa exponent with
  | true, true =>
    if twice < scaled.1 ∨ (twice = scaled.1 ∧ below % 2 = 0) then some below
    else some (below + 1)
  | true, false => some below
  | false, true => some (below + 1)
  | false, false => none

def stripped : Nat → Nat → Int → Decimal
  | 0, digits, exponent => ⟨digits, exponent⟩
  | fuel + 1, digits, exponent =>
    if digits % 10 = 0 then stripped fuel (digits / 10) (exponent + 1) else ⟨digits, exponent⟩

/-- The shortest decimal for a positive number. Seventeen digits are always enough. -/
def shortest (mantissa : Nat) (exponent : Int) : Decimal :=
  let place := leadingPlace mantissa exponent
  let found := (List.range 17).findSome? fun (extra : Nat) =>
    let grid := place - (extra : Int)
    (onGrid grid mantissa exponent).map fun c => stripped 17 c grid
  found.getD ⟨0, 0⟩

end Decimal

/-- How numbers are laid out. A number is written in full while its leading place is in range,
and as a mantissa with a power of ten otherwise. -/
structure Layout where
  /-- Least leading place written in full. -/
  leastPlace : Option Int
  /-- Greatest leading place written in full. -/
  greatestPlace : Option Int
  /-- Whether a whole number ends in `.0`. -/
  pointAlways : Bool

namespace Layout

def writesInFull (layout : Layout) (place : Int) : Bool :=
  layout.leastPlace.all (· ≤ place) && layout.greatestPlace.all (place ≤ ·)

def full (layout : Layout) (digits : List Char) (place : Int) : List Char :=
  if place < 0 then ['0', '.'] ++ List.replicate (-place - 1).toNat '0' ++ digits
  else
    let units := place.toNat + 1
    if digits.length ≤ units then
      digits ++ List.replicate (units - digits.length) '0' ++
        (if layout.pointAlways then ['.', '0'] else [])
    else digits.take units ++ '.' :: digits.drop units

def powered (digits : List Char) (place : Int) : List Char :=
  let mantissa := match digits with
    | first :: (second :: more) => first :: '.' :: second :: more
    | one => one
  mantissa ++ 'e' :: (if place < 0 then '-' else '+') :: Nat.toDigits 10 place.natAbs

def write (layout : Layout) (x : Binary64) : List Char :=
  match x.value with
  | .nan => ['N', 'a', 'N']
  | .infinite negative => (if negative then ['-'] else []) ++ ['i', 'n', 'f']
  | .finite negative mantissa exponent =>
    let decimal := if mantissa = 0 then ⟨0, 0⟩ else Decimal.shortest mantissa exponent
    let digits := Nat.toDigits 10 decimal.digits
    let place := decimal.exponent + digits.length - 1
    (if negative then ['-'] else []) ++
      (if layout.writesInFull place then layout.full digits place else powered digits place)

/-- Numbers between 0.00001 and 10 ^ 16 are written in full and always with a point. -/
def ofRecords : Layout := ⟨some (-5), some 15, true⟩

/-- Every number is written in full, and a whole number has no point. -/
def plain : Layout := ⟨none, none, false⟩

/-- Every number is written in full and always with a point. -/
def pointed : Layout := ⟨none, none, true⟩

end Layout

end QuoteGateway.Number
