import QuoteGateway.Text.LetterCase
import QuoteGateway.Text.Pieces

/-!
# Hosts in other scripts

A label of a host with characters beyond ASCII is written in ASCII: first its ASCII characters,
then the places of the others, in the order of their code points. Places are written as differences
in base 36, with thresholds that adapt to the differences before. The tables of UTS 46 are no part of
this.
-/

namespace QuoteGateway.Net.Punycode

def digit (n : Nat) : Char := Char.ofNat (if n < 26 then 'a'.toNat + n else '0'.toNat + n - 26)

/-- The least value of a digit that is not the last one, at a position. -/
def threshold (bias position : Nat) : Nat :=
  if position ≤ bias then 1 else min 26 (position - bias)

theorem threshold_pos (bias position : Nat) : 1 ≤ threshold bias position := by
  unfold threshold
  split <;> omega

/-- A difference in digits, the one of the least weight first. -/
def difference (bias position n : Nat) : List Char :=
  let t := threshold bias position
  if n < t then [digit n]
  else digit (t + (n - t) % (36 - t)) :: difference bias (position + 36) ((n - t) / (36 - t))
termination_by n
decreasing_by
  have positive := threshold_pos bias position
  exact Nat.lt_of_le_of_lt (Nat.div_le_self _ _) (by omega)

def biasOf (bias scaled : Nat) : Nat :=
  if 455 < scaled then biasOf (bias + 36) (scaled / 35)
  else bias + 36 * scaled / (scaled + 38)
termination_by scaled
decreasing_by exact Nat.div_lt_self (by omega) (by decide)

/-- The bias after a difference, with so many characters in place. -/
def adapted (difference inPlace : Nat) (isFirst : Bool) : Nat :=
  let scaled := if isFirst then difference / 700 else difference / 2
  biasOf 0 (scaled + scaled / inPlace)

structure Progress where
  /-- The least code point whose characters are not yet in place. -/
  code : Nat
  difference : Nat
  bias : Nat
  inPlace : Nat
  written : List Char

/-- One character of the label passed over, or put in place if it has the code point in turn. -/
def Progress.pass (basic : Nat) (progress : Progress) (c : Char) : Progress :=
  if c.toNat < progress.code then { progress with difference := progress.difference + 1 }
  else if c.toNat = progress.code then
    { progress with
      difference := 0
      bias := adapted progress.difference (progress.inPlace + 1) (progress.inPlace == basic)
      inPlace := progress.inPlace + 1
      written := progress.written ++ Punycode.difference progress.bias 36 progress.difference }
  else progress

def Progress.placeAll (label : List Char) (basic : Nat) (progress : Progress) (code : Nat) :
    Progress :=
  let skipped := (code - progress.code) * (progress.inPlace + 1)
  let start := { progress with code, difference := progress.difference + skipped }
  let finish := label.foldl (Progress.pass basic) start
  { finish with code := code + 1, difference := finish.difference + 1 }

def isBasic (c : Char) : Bool := c.toNat < 0x80

def firstBias : Nat := 72

def encode (label : List Char) : List Char :=
  let basic := label.filter isBasic
  let codes := ((label.filter (!isBasic ·)).map Char.toNat).mergeSort.eraseDups
  let written := if basic.isEmpty then [] else basic ++ ['-']
  let start : Progress := ⟨0x80, 0, firstBias, basic.length, written⟩
  (codes.foldl (Progress.placeAll label basic.length) start).written

def isFullStop (c : Char) : Bool := "。．｡".toList.contains c

/-- A host in small letters, with every label in ASCII. -/
def hostText (host : List Char) : List Char :=
  let small := (host.flatMap Text.smallLetter).map fun c => if isFullStop c then '.' else c
  Text.joined '.' ((Text.pieces '.' small).map fun label =>
    if label.all isBasic then label else "xn--".toList ++ encode label)

/-- The form of a host where none is refused. It is that of UTS 46 for an ASCII host without a label
after `xn--`. For others the mapping beyond small letters, the composition of characters and the
checks of labels are left out. -/
def hostForm (host : List Char) : Option (List Char) := some (hostText host)

end QuoteGateway.Net.Punycode
