import QuoteGateway.Number.Binary64

/-!
# Number literals

Decimal literals with an optional sign, fraction and exponent, and the words for infinities and
for no number. The result is the nearest binary64 number.
-/

namespace QuoteGateway.Number

def leadingDigits (cs : List Char) : List Char × List Char := cs.span Char.isDigit

def exponentPart? (cs : List Char) : Option Int :=
  match cs with
  | [] => some 0
  | mark :: rest =>
    if mark = 'e' ∨ mark = 'E' then
      let (negative, digits) := match rest with
        | '-' :: digits => (true, digits)
        | '+' :: digits => (false, digits)
        | digits => (false, digits)
      if digits.isEmpty || !digits.all Char.isDigit then none
      else
        let n : Int := Nat.ofDigitChars 10 digits 0
        some (if negative then -n else n)
    else none

def unsignedLiteral? (negative : Bool) (cs : List Char) : Option Binary64 :=
  let (whole, afterWhole) := leadingDigits cs
  let (fraction, afterFraction) := match afterWhole with
    | '.' :: rest => leadingDigits rest
    | rest => ([], rest)
  if whole.isEmpty && fraction.isEmpty then
    let word := cs.map Char.toLower
    if word = ['i', 'n', 'f'] ∨ word = ['i', 'n', 'f', 'i', 'n', 'i', 't', 'y'] then
      some (.ofMagnitude negative Binary64.infiniteMagnitude)
    else if word = ['n', 'a', 'n'] then some .nan
    else none
  else (exponentPart? afterFraction).map fun exponent =>
    .ofDecimal negative (Nat.ofDigitChars 10 (whole ++ fraction) 0) (exponent - fraction.length)

/-- The number of a literal, or nothing if the text is none. -/
def literal? (cs : List Char) : Option Binary64 :=
  match cs with
  | '-' :: rest => unsignedLiteral? true rest
  | '+' :: rest => unsignedLiteral? false rest
  | rest => unsignedLiteral? false rest

end QuoteGateway.Number
