import QuoteGateway.Json.Lexeme

/-!
# Numbers in JSON text

Whole numbers are exact while they fit 64 bits. All others become binary64 numbers by a quick
rule: the leading digits that fit 64 bits are rounded, then multiplied or divided by a rounded
power of ten. The result can miss the nearest number by a few places.
-/

namespace QuoteGateway.Json

open Number (Binary64)

inductive Numeral where
  | natural (n : Nat)
  | negative (i : Int)
  | real (x : Binary64)

def Numeral.found : Numeral → Found
  | .natural n => .integer n
  | .negative i => .integer i
  | .real x => .real x

/-- Digits appended to a number as long as it fits 64 bits, and the digits left over. -/
def fittingDigits : Nat → List Char → Nat × List Char
  | n, [] => (n, [])
  | n, c :: rest =>
    let next := n * 10 + (c.toNat - 48)
    if next < UInt64.size then fittingDigits next rest else (n, c :: rest)

def greatestPower : Nat := 308

def powerOfTen (k : Nat) : Binary64 := .nearest false (Number.tenTo k) 1

def dividedByPower : (steps : Nat) → Binary64 → Nat → Binary64
  | 0, x, k => x.dividedBy (powerOfTen k)
  | steps + 1, x, k =>
    if k ≤ greatestPower then x.dividedBy (powerOfTen k)
    else if x.isZero then x
    else dividedByPower steps (x.dividedBy (powerOfTen greatestPower)) (k - greatestPower)

/-- The quick value of `significand * 10 ^ exponent`, unless it is too large. -/
def quickReal? (significand : Nat) (exponent : Int) : Option Binary64 :=
  let x := Binary64.ofNat significand
  if 0 ≤ exponent then
    if exponent ≤ greatestPower then
      let product := x.times (powerOfTen exponent.toNat)
      if product.isFinite then some product else none
    else if x.isZero then some x else none
  else some (dividedByPower 4 x (-exponent).toNat)

def signed (negative : Bool) (x : Binary64) : Binary64 := if negative then x.negate else x

/-- The real number of a significand and an exponent, whose text ends before `rest`. -/
def realBefore (negative : Bool) (significand : Nat) (exponent : Int) (rest : List Char) :
    Except Stop (Numeral × List Char) :=
  match quickReal? significand exponent with
  | some x => .ok (.real (signed negative x), rest)
  | none => stopBefore .numberTooLarge rest

def exponentLimit : Nat := 0x7FFFFFFF

/-- Digits appended to an exponent as long as it stays within the limit, or the digits after the
one that exceeds it. -/
def fittingExponent : Nat → List Char → Nat × Option (List Char)
  | n, [] => (n, none)
  | n, c :: rest =>
    let next := n * 10 + (c.toNat - 48)
    if next ≤ exponentLimit then fittingExponent next rest else (n, some rest)

def afterExponentMark (negative : Bool) (significand : Nat) (scale : Int) (cs : List Char) :
    Except Stop (Numeral × List Char) :=
  let (downward, afterSign) := match cs with
    | '+' :: rest => (false, rest)
    | '-' :: rest => (true, rest)
    | rest => (false, rest)
  match afterSign with
  | [] => stopBefore .endInValue []
  | c :: _ =>
    if !c.isDigit then stopWithin .badNumber afterSign
    else
      let (digits, rest) := afterSign.span Char.isDigit
      match fittingExponent 0 digits with
      | (_, some later) =>
        if significand ≠ 0 ∧ !downward then stopBefore .numberTooLarge (later ++ rest)
        else .ok (.real (signed negative .zero), rest)
      | (n, none) =>
        let exponent : Int := if downward then scale - n else scale + n
        realBefore negative significand
          (max (-(exponentLimit : Int) - 1) (min exponentLimit exponent)) rest

def afterPoint (negative : Bool) (significand : Nat) (scale : Int) (cs : List Char) :
    Except Stop (Numeral × List Char) :=
  let (digits, rest) := cs.span Char.isDigit
  if digits.isEmpty then
    if rest.isEmpty then stopBefore .endInValue [] else stopWithin .badNumber rest
  else
    let (significand, dropped) := fittingDigits significand digits
    let scale := scale - (digits.length - dropped.length : Nat)
    match rest with
    | 'e' :: after => afterExponentMark negative significand scale after
    | 'E' :: after => afterExponentMark negative significand scale after
    | _ => realBefore negative significand scale rest

/-- A number from the text after its whole part, of which `dropped` digits did not fit. -/
def afterWhole (negative : Bool) (significand dropped : Nat) (cs : List Char) :
    Except Stop (Numeral × List Char) :=
  match cs with
  | '.' :: rest => afterPoint negative significand dropped rest
  | 'e' :: rest => afterExponentMark negative significand dropped rest
  | 'E' :: rest => afterExponentMark negative significand dropped rest
  | _ =>
    if dropped ≠ 0 then realBefore negative significand dropped cs
    else if !negative then .ok (.natural significand, cs)
    else if significand = 0 ∨ -(significand : Int) < Int64.minValue.toInt then
      .ok (.real (Binary64.ofNat significand).negate, cs)
    else .ok (.negative (-(significand : Int)), cs)

def startsWithDigit (cs : List Char) : Bool := cs.head?.any Char.isDigit

def unsignedNumeral (negative : Bool) (cs : List Char) : Except Stop (Numeral × List Char) :=
  match cs with
  | [] => stopBefore .endInValue []
  | c :: rest =>
    if c = '0' then
      if startsWithDigit rest then stopWithin .badNumber rest else afterWhole negative 0 0 rest
    else if c.isDigit then
      let (digits, after) := (c :: rest).span Char.isDigit
      let (significand, dropped) := fittingDigits 0 digits
      afterWhole negative significand dropped.length after
    else stopWithin .badNumber (c :: rest)

def numeral (cs : List Char) : Except Stop (Numeral × List Char) :=
  match cs with
  | '-' :: rest => unsignedNumeral true rest
  | _ => unsignedNumeral false cs

end QuoteGateway.Json
