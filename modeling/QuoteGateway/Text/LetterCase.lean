import QuoteGateway.Text.LetterTables

/-!
# Upper and lower case

Texts in small and in capital letters, for every script. One letter may become several (`İ`, `ß`),
and the capital sigma has two small forms: the final one ends a word.
-/

namespace QuoteGateway.Text

def LetterRun.image? (run : LetterRun) (n : Nat) : Option Nat :=
  if run.first ≤ n ∧ n ≤ run.last ∧ (n - run.first) % run.stride = 0 then
    some (n + run.shift).toNat
  else none

def withinRanges (ranges : List (Nat × Nat)) (n : Nat) : Bool :=
  ranges.any fun range => range.1 ≤ n && n ≤ range.2

/-- The small form of one letter where it stands on its own. -/
def smallLetter (c : Char) : List Char :=
  if c.toNat < 0x80 then [c.toLower]
  else if c = 'İ' then ['i', Char.ofNat 0x307]
  else match lowerRuns.findSome? (·.image? c.toNat) with
    | some n => [Char.ofNat n]
    | none => [c]

def capitalLetter (c : Char) : List Char :=
  if c.toNat < 0x80 then [c.toUpper]
  else match upperSequences.lookup c.toNat with
    | some ns => ns.map Char.ofNat
    | none => match upperRuns.findSome? (·.image? c.toNat) with
      | some n => [Char.ofNat n]
      | none => [c]

/-- Whether the first character that counts for the shape of a word is a letter with a case. -/
def startsWithLetter (cs : List Char) : Bool :=
  match cs.dropWhile fun c => withinRanges caseIgnorableRanges c.toNat with
  | [] => false
  | c :: _ => withinRanges casedRanges c.toNat

/-- Small letters for the text `cs`, which follows the reversed text `before`. A sigma is final
where a letter comes before it and none after it. -/
def smallLettersAfter (before : List Char) : List Char → List Char
  | [] => []
  | c :: rest =>
    (if c = 'Σ' then
      [if startsWithLetter before && !startsWithLetter rest then 'ς' else 'σ']
    else smallLetter c) ++ smallLettersAfter (c :: before) rest

def lowercase (s : String) : String := String.ofList (smallLettersAfter [] s.toList)

def uppercase (s : String) : String := String.ofList (s.toList.flatMap capitalLetter)

end QuoteGateway.Text
