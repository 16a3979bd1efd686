import QuoteGateway.Json.Stop

/-!
# Blanks, words and texts

The smallest parts of JSON text: blanks between values, the words for constants, and quoted texts
with their escapes. Characters beyond the first plane may be written as two escapes, a leading and
a trailing surrogate.
-/

namespace QuoteGateway.Json

def isBlank (c : Char) : Bool := c == ' ' || c == '\n' || c == '\t' || c == '\r'

def skipBlanks (cs : List Char) : List Char := cs.dropWhile isBlank

def afterWord : (letters : List Char) → List Char → Except Stop (List Char)
  | [], rest => .ok rest
  | _ :: _, [] => stopBefore .endInValue []
  | letter :: letters, c :: rest =>
    if c = letter then afterWord letters rest else stopWithin .expectedWord (c :: rest)

def fourHexDigits (cs : List Char) : Except Stop (Nat × List Char) :=
  let failure : Except Stop (Nat × List Char) :=
    if byteLength cs < 4 then .error (.placed .endInText 0)
    else .error (.placed .badEscape (byteLength cs - 4))
  match cs with
  | a :: b :: c :: d :: rest =>
    match Text.hexDigit? a, Text.hexDigit? b, Text.hexDigit? c, Text.hexDigit? d with
    | some a, some b, some c, some d => .ok (((a * 16 + b) * 16 + c) * 16 + d, rest)
    | _, _, _, _ => failure
  | _ => failure

def isLeadingSurrogate (n : Nat) : Bool := 0xD800 ≤ n && n ≤ 0xDBFF
def isTrailingSurrogate (n : Nat) : Bool := 0xDC00 ≤ n && n ≤ 0xDFFF

def pairedSurrogates (lead trail : Nat) : Char :=
  Char.ofNat ((lead - 0xD800) * 0x400 + (trail - 0xDC00) + 0x10000)

/-- The character of a numbered escape, whose digits start the text, and the number of characters
that the escape takes after its letter. -/
def numberedEscape (cs : List Char) : Except Stop (Char × Nat) := do
  let (n, rest) ← fourHexDigits cs
  if isTrailingSurrogate n then stopBefore .loneSurrogate rest
  else if !isLeadingSurrogate n then .ok (Char.ofNat n, 4)
  else match rest with
    | [] => stopBefore .endInText []
    | '\\' :: [] => stopBefore .endInText []
    | '\\' :: 'u' :: digits =>
      let (m, after) ← fourHexDigits digits
      if isTrailingSurrogate m then .ok (pairedSurrogates n m, 10)
      else stopBefore .loneSurrogate after
    | '\\' :: other => stopWithin .unfinishedSurrogate other
    | other => stopWithin .unfinishedSurrogate other

def letterEscape? : Char → Option Char
  | '"' => some '"'
  | '\\' => some '\\'
  | '/' => some '/'
  | 'b' => some '\x08'
  | 'f' => some '\x0c'
  | 'n' => some '\n'
  | 'r' => some '\r'
  | 't' => some '\t'
  | _ => none

/-- The character of an escape and the number of characters it takes after the backslash. -/
def escapeAt (cs : List Char) : Except Stop (Char × Nat) :=
  match cs with
  | [] => stopBefore .endInText []
  | 'u' :: digits => (numberedEscape digits).map fun (c, n) => (c, n + 1)
  | letter :: rest =>
    match letterEscape? letter with
    | some c => .ok (c, 1)
    | none => stopWithin .badEscape (letter :: rest)

/-- The characters of a text up to its closing quote, after `skipped` characters of an escape that
was read ahead. -/
def textAfter : (skipped : Nat) → List Char → Except Stop (List Char × List Char)
  | _, [] => stopBefore .endInText []
  | skipped + 1, _ :: rest => textAfter skipped rest
  | 0, c :: rest =>
    if c = '"' then .ok ([], rest)
    else if c = '\\' then do
      let (escaped, length) ← escapeAt rest
      let (more, after) ← textAfter length rest
      .ok (escaped :: more, after)
    else if c.toNat < 0x20 then stopWithin .controlCharacter (c :: rest)
    else do
      let (more, after) ← textAfter 0 rest
      .ok (c :: more, after)

def openText : Reader String := fun cs => do
  let (content, rest) ← textAfter 0 cs
  .ok (String.ofList content, rest)

def escapedChar (c : Char) : List Char :=
  match c with
  | '"' => ['\\', '"']
  | '\\' => ['\\', '\\']
  | '\x08' => ['\\', 'b']
  | '\x0c' => ['\\', 'f']
  | '\n' => ['\\', 'n']
  | '\r' => ['\\', 'r']
  | '\t' => ['\\', 't']
  | c =>
    if c.toNat < 0x20 then
      ['\\', 'u', '0', '0', Nat.digitChar (c.toNat / 16), Nat.digitChar (c.toNat % 16)]
    else [c]

def writeText (s : String) : List Char := '"' :: s.toList.flatMap escapedChar ++ ['"']

end QuoteGateway.Json
