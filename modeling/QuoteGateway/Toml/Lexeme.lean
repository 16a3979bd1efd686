import QuoteGateway.Calendar.Day
import QuoteGateway.Json.Document
import QuoteGateway.Number.Literal
import QuoteGateway.Text.Numeral

/-!
# Parts of TOML text

Blanks and comments, keys, texts in their four kinds of quotes, and values without quotes: truth
values, numbers and stamps. Malformed text is refused without a reason. So are whole numbers beyond
64 bits with a sign, in any base.
-/

namespace QuoteGateway.Toml

open Json (Document)
open Number (Binary64)

abbrev Part (α : Type) := List Char → Option (α × List Char)

def isBlank (c : Char) : Bool := c == ' ' || c == '\t'

/-- A character of a comment or a text: any but the control characters, of which only the tab may
stand for itself. -/
def isPlain (c : Char) : Bool := c == '\t' || (0x20 ≤ c.toNat && c.toNat != 0x7F)

/-- A text whose line breaks are one character each. A carriage return has no place elsewhere. -/
def withShortBreaks? : List Char → Option (List Char)
  | [] => some []
  | '\r' :: '\n' :: rest => do some ('\n' :: (← withShortBreaks? rest))
  | '\r' :: _ => none
  | c :: rest => do some (c :: (← withShortBreaks? rest))

def skipBlanks (cs : List Char) : List Char := cs.dropWhile isBlank

def afterGap : (inComment : Bool) → List Char → Option (List Char)
  | _, [] => some []
  | true, c :: rest =>
    if c = '\n' then afterGap false rest else if isPlain c then afterGap true rest else none
  | false, c :: rest =>
    if isBlank c ∨ c = '\n' then afterGap false rest
    else if c = '#' then afterGap true rest
    else some (c :: rest)

def afterLine (cs : List Char) : Option (List Char) :=
  let ending := match skipBlanks cs with
    | '#' :: comment => comment.dropWhile isPlain
    | rest => rest
  match ending with
  | [] => some []
  | '\n' :: rest => some rest
  | _ => none

def numberedChar (width : Nat) (cs : List Char) : Option (Char × List Char) := do
  let values ← (cs.take width).mapM Text.hexDigit?
  let n := values.foldl (fun n d => n * 16 + d) 0
  if values.length = width ∧ n.isValidChar then some (Char.ofNat n, cs.drop width) else none

def escapedChar (cs : List Char) : Option (Char × List Char) :=
  match cs with
  | 'b' :: rest => some ('\x08', rest)
  | 't' :: rest => some ('\t', rest)
  | 'n' :: rest => some ('\n', rest)
  | 'f' :: rest => some ('\x0c', rest)
  | 'r' :: rest => some ('\r', rest)
  | '"' :: rest => some ('"', rest)
  | '\\' :: rest => some ('\\', rest)
  | 'u' :: rest => numberedChar 4 rest
  | 'U' :: rest => numberedChar 8 rest
  | _ => none

def basicText : (steps : Nat) → Part (List Char)
  | 0, _ => none
  | _, [] => none
  | steps + 1, c :: rest =>
    if c = '"' then some ([], rest)
    else if c = '\\' then do
      let (escaped, rest) ← escapedChar rest
      let (more, rest) ← basicText steps rest
      some (escaped :: more, rest)
    else if isPlain c then do
      let (more, rest) ← basicText steps rest
      some (c :: more, rest)
    else none

/-- The text after a backslash at the end of a line, from the next character that is no blank. -/
def afterFoldedLine (cs : List Char) : Option (List Char) :=
  match skipBlanks cs with
  | '\n' :: rest => some (rest.dropWhile fun c => isBlank c || c == '\n')
  | _ => none

/-- The text up to three quotes of a kind. Up to two more quotes at the end belong to it. -/
def longText (quote : Char) (escapes : Bool) : (steps : Nat) → Part (List Char)
  | 0, _ => none
  | _, [] => none
  | steps + 1, c :: rest =>
    let quotes := ((c :: rest).takeWhile (· == quote)).length
    if 3 ≤ quotes then
      if quotes ≤ 5 then
        some (List.replicate (quotes - 3) quote, (c :: rest).drop quotes)
      else none
    else if escapes ∧ c = '\\' then
      match afterFoldedLine rest with
      | some rest => longText quote escapes steps rest
      | none => do
        let (escaped, rest) ← escapedChar rest
        let (more, rest) ← longText quote escapes steps rest
        some (escaped :: more, rest)
    else if isPlain c ∨ c = '\n' then do
      let (more, rest) ← longText quote escapes steps rest
      some (c :: more, rest)
    else none

/-- A line break directly after three quotes does not count. -/
def withoutFirstBreak (cs : List Char) : List Char :=
  match cs with
  | '\n' :: rest => rest
  | rest => rest

def literalText : Part (List Char) := fun cs =>
  let text := cs.takeWhile fun c => c != '\'' && isPlain c
  match cs.drop text.length with
  | '\'' :: rest => some (text, rest)
  | _ => none

def quotedText : Part String := fun cs => do
  let (text, rest) ← match cs with
    | '"' :: '"' :: '"' :: rest => longText '"' true (rest.length + 1) (withoutFirstBreak rest)
    | '"' :: rest => basicText (rest.length + 1) rest
    | '\'' :: '\'' :: '\'' :: rest =>
      longText '\'' false (rest.length + 1) (withoutFirstBreak rest)
    | '\'' :: rest => literalText rest
    | _ => none
  some (String.ofList text, rest)

def isKeyChar (c : Char) : Bool := c.isAlphanum || c == '_' || c == '-'

def keyPart : Part String := fun cs =>
  match cs with
  | '"' :: rest => do
    let (text, rest) ← basicText (rest.length + 1) rest
    some (String.ofList text, rest)
  | '\'' :: rest => do
    let (text, rest) ← literalText rest
    some (String.ofList text, rest)
  | _ =>
    let text := cs.takeWhile isKeyChar
    if text.isEmpty then none else some (String.ofList text, cs.drop text.length)

/-- A key with at most `room` parts: the first one, and the others that follow after points. -/
def key : (room : Nat) → Part (String × List String)
  | 0, _ => none
  | room + 1, cs => do
    let (part, rest) ← keyPart (skipBlanks cs)
    match skipBlanks rest with
    | '.' :: rest =>
      let ((next, more), rest) ← key room rest
      some ((part, next :: more), rest)
    | rest => some ((part, []), rest)

/-- Digits, where an underscore may stand between two of them. -/
def digits? (isDigit : Char → Bool) : List Char → Option (List Char)
  | [] => none
  | [c] => if isDigit c then some [c] else none
  | c :: '_' :: rest => if isDigit c then do some (c :: (← digits? isDigit rest)) else none
  | c :: rest => if isDigit c then do some (c :: (← digits? isDigit rest)) else none

/-- The digits of a whole part: no zero stands before another digit. -/
def wholeDigits? (cs : List Char) : Option (List Char) := do
  let digits ← digits? Char.isDigit cs
  if digits.head? = some '0' ∧ digits.length ≠ 1 then none else some digits

def within64? (i : Int) : Option Int :=
  if Int64.minValue.toInt ≤ i ∧ i ≤ Int64.maxValue.toInt then some i else none

/-- The number of digits in a base after its mark. -/
def basedNumber? (base : Nat) (cs : List Char) : Option Nat := do
  let digits ← digits? (fun c => (Text.hexDigit? c).any (· < base)) cs
  some ((digits.filterMap Text.hexDigit?).foldl (fun n d => n * base + d) 0)

def unsigned (cs : List Char) : List Char :=
  match cs with
  | '+' :: rest => rest
  | '-' :: rest => rest
  | rest => rest

def integer? (cs : List Char) : Option Int := do
  match cs with
  | '0' :: 'x' :: digits => within64? (← basedNumber? 16 digits)
  | '0' :: 'o' :: digits => within64? (← basedNumber? 8 digits)
  | '0' :: 'b' :: digits => within64? (← basedNumber? 2 digits)
  | _ =>
    let n : Int := Nat.ofDigitChars 10 (← wholeDigits? (unsigned cs)) 0
    within64? (if cs.head? = some '-' then -n else n)

def isExponent (cs : List Char) : Bool :=
  match cs with
  | mark :: rest => (mark == 'e' || mark == 'E') && (digits? Char.isDigit (unsigned rest)).isSome
  | [] => false

/-- Whether a text without a sign is a real number: a whole part with a fraction, an exponent or
both. -/
def isReal (cs : List Char) : Bool :=
  let isPart (c : Char) : Bool := c.isDigit || c == '_'
  let whole := cs.takeWhile isPart
  (wholeDigits? whole).isSome &&
    match cs.drop whole.length with
    | '.' :: rest =>
      let fraction := rest.takeWhile isPart
      (digits? Char.isDigit fraction).isSome &&
        (fraction.length = rest.length || isExponent (rest.drop fraction.length))
    | rest => isExponent rest

/-- A real number, or one of the words for those that are none. -/
def real? (cs : List Char) : Option Binary64 :=
  let start := unsigned cs
  if start = "inf".toList ∨ start = "nan".toList then Number.literal? cs
  else if isReal start then
    (Number.literal? (cs.filter (· != '_'))).filter (· != Binary64.infinity)
  else none

def counted (width low high : Nat) : Part Nat := fun cs =>
  let digits := cs.take width
  let n := Nat.ofDigitChars 10 digits 0
  if digits.length = width ∧ digits.all Char.isDigit ∧ low ≤ n ∧ n ≤ high then
    some (n, cs.drop width)
  else none

def afterMark (mark : Char) (cs : List Char) : Option (List Char) :=
  match cs with
  | c :: rest => if c = mark then some rest else none
  | [] => none

def date : Part (List Char) := fun cs => do
  let (year, rest) ← counted 4 0 9999 cs
  let (month, rest) ← counted 2 1 12 (← afterMark '-' rest)
  let (_, rest) ← counted 2 1 (Calendar.monthLength year month) (← afterMark '-' rest)
  some (cs.take 10, rest)

/-- A fraction of a second up to nanoseconds, without zeros at its end. -/
def fraction : List Char → List Char × List Char
  | '.' :: rest =>
    let digits := rest.takeWhile Char.isDigit
    let kept := ((digits.take 9).reverse.dropWhile (· == '0')).reverse
    if digits.isEmpty then ([], '.' :: rest)
    else (if kept.isEmpty then [] else '.' :: kept, rest.drop digits.length)
  | rest => ([], rest)

/-- A time of day. It may have a leap second. -/
def clock : Part (List Char) := fun cs => do
  let (_, rest) ← counted 2 0 23 cs
  let (_, rest) ← counted 2 0 59 (← afterMark ':' rest)
  let (_, rest) ← counted 2 0 60 (← afterMark ':' rest)
  let (part, rest) := fraction rest
  some (cs.take 8 ++ part, rest)

/-- A distance from the prime meridian that takes a whole text. One that is none has a plus sign. -/
def offset? (cs : List Char) : Option (List Char) := do
  match cs with
  | [] => some []
  | ['Z'] | ['z'] => some ['Z']
  | sign :: start =>
    let (hours, rest) ← counted 2 0 23 start
    let (minutes, rest) ← counted 2 0 59 (← afterMark ':' rest)
    if rest ≠ [] ∨ (sign ≠ '+' ∧ sign ≠ '-') then none
    else some ((if hours + minutes = 0 then '+' else sign) :: start)

def stampText? (cs : List Char) : Option (List Char) :=
  match date cs with
  | none => do
    let (time, rest) ← clock cs
    if rest.isEmpty then some time else none
  | some (day, []) => some day
  | some (day, delimiter :: rest) => do
    let (time, rest) ← clock rest
    if delimiter = 'T' ∨ delimiter = 't' ∨ delimiter = ' ' then
      some (day ++ 'T' :: (time ++ (← offset? rest)))
    else none

/-- A value without quotes. -/
def bareValue? (cs : List Char) : Option Document :=
  if cs = "true".toList then some (.flag true)
  else if cs = "false".toList then some (.flag false)
  else match stampText? cs, integer? cs with
    | some stamp, _ => some (.text (String.ofList stamp))
    | none, some i => some (.integer i)
    | none, none => (real? cs).map .real

def endsBareValue (c : Char) : Bool :=
  isBlank c || c == '\n' || c == ',' || c == ']' || c == '}' || c == '#'

/-- The text of a value without quotes. A blank may stand between a date and a time. -/
def bareText (cs : List Char) : List Char × List Char :=
  let token := cs.takeWhile (!endsBareValue ·)
  match date token, cs.drop token.length with
  | some (_, []), ' ' :: rest =>
    if (clock rest).isSome then
      let time := rest.takeWhile (!endsBareValue ·)
      (token ++ ' ' :: time, rest.drop time.length)
    else (token, ' ' :: rest)
  | _, rest => (token, rest)

end QuoteGateway.Toml
