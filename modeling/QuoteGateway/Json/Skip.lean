import QuoteGateway.Json.Lexeme

/-!
# Values that are skipped

A field that nobody asked for is stepped over. Its value must be well formed, but may be nested to
any depth, may hold numbers of any size and escapes of unpaired surrogates.
-/

namespace QuoteGateway.Json

/-- The text after an escape whose backslash has been read, and the characters it takes. -/
def skippedEscape (cs : List Char) : Except Stop Nat :=
  match cs with
  | [] => stopBefore .endInText []
  | 'u' :: digits => (fourHexDigits digits).map fun _ => 5
  | letter :: rest =>
    if (letterEscape? letter).isSome then .ok 1 else stopWithin .badEscape (letter :: rest)

def afterText : (skipped : Nat) → List Char → Except Stop (List Char)
  | _, [] => stopBefore .endInText []
  | skipped + 1, _ :: rest => afterText skipped rest
  | 0, c :: rest =>
    if c = '"' then .ok rest
    else if c = '\\' then do
      let length ← skippedEscape rest
      afterText length rest
    else if c.toNat < 0x20 then stopBefore .controlCharacter (c :: rest)
    else afterText 0 rest

def afterExponent (cs : List Char) : Except Stop (List Char) :=
  let digits := match cs with
    | '+' :: rest => rest
    | '-' :: rest => rest
    | rest => rest
  match digits with
  | [] => stopBefore .badNumber []
  | c :: rest =>
    if c.isDigit then .ok (rest.dropWhile Char.isDigit) else stopWithin .badNumber (c :: rest)

def afterWholePart (cs : List Char) : Except Stop (List Char) :=
  match cs with
  | '.' :: rest =>
    let after := rest.dropWhile Char.isDigit
    if after.length = rest.length then stopWithin .badNumber rest
    else match after with
      | 'e' :: more => afterExponent more
      | 'E' :: more => afterExponent more
      | _ => .ok after
  | 'e' :: rest => afterExponent rest
  | 'E' :: rest => afterExponent rest
  | _ => .ok cs

def afterNumber (cs : List Char) : Except Stop (List Char) :=
  match cs with
  | [] => stopBefore .badNumber []
  | c :: rest =>
    if c = '0' then
      if rest.head?.any Char.isDigit then stopWithin .badNumber rest else afterWholePart rest
    else if c.isDigit then afterWholePart (rest.dropWhile Char.isDigit)
    else stopWithin .badNumber (c :: rest)

inductive Frame where
  | list
  | object

def Frame.closer : Frame → Char
  | .list => ']'
  | .object => '}'

def Frame.endFault : Frame → Fault
  | .list => .endInList
  | .object => .endInObject

def Frame.expectedEnd : Frame → Fault
  | .list => .expectedListEnd
  | .object => .expectedObjectEnd

def Frame.afterKey (frame : Frame) (cs : List Char) : Except Stop (List Char) :=
  match frame with
  | .list => .ok cs
  | .object =>
    match skipBlanks cs with
    | [] => stopBefore .endInObject []
    | '"' :: rest => do
      let after ← afterText 0 rest
      match skipBlanks after with
      | [] => stopBefore .endInObject []
      | ':' :: value => .ok value
      | other => stopWithin .expectedColon other
    | other => stopWithin .keyNotText other

mutual

/-- The text after a value inside the frames that are open. Each step reads a character, so as
many steps as there are characters are enough. -/
def afterValueIn : (steps : Nat) → List Frame → List Char → Except Stop (List Char)
  | 0, _, cs => stopBefore .expectedValue cs
  | steps + 1, frames, cs =>
    match skipBlanks cs with
    | [] => stopBefore .endInValue []
    | c :: rest =>
      if c = 'n' then do afterItemIn steps frames true (← afterWord ['u', 'l', 'l'] rest)
      else if c = 't' then do afterItemIn steps frames true (← afterWord ['r', 'u', 'e'] rest)
      else if c = 'f' then do afterItemIn steps frames true (← afterWord ['a', 'l', 's', 'e'] rest)
      else if c = '-' then do afterItemIn steps frames true (← afterNumber rest)
      else if c.isDigit then do afterItemIn steps frames true (← afterNumber (c :: rest))
      else if c = '"' then do afterItemIn steps frames true (← afterText 0 rest)
      else if c = '[' then afterItemIn steps (.list :: frames) false rest
      else if c = '{' then afterItemIn steps (.object :: frames) false rest
      else stopWithin .expectedValue (c :: rest)

/-- The text after the frames that are open, where an item has just ended (`mayContinue`) or the
innermost frame has just been opened. -/
def afterItemIn : (steps : Nat) → List Frame → (mayContinue : Bool) → List Char →
    Except Stop (List Char)
  | _, [], _, cs => .ok cs
  | 0, _ :: _, _, cs => stopBefore .expectedValue cs
  | steps + 1, frame :: frames, mayContinue, cs =>
    match skipBlanks cs with
    | [] => stopBefore frame.endFault []
    | c :: rest =>
      if c = ',' ∧ mayContinue then do
        afterValueIn steps (frame :: frames) (← frame.afterKey rest)
      else if c = frame.closer then afterItemIn steps frames true rest
      else if mayContinue then stopWithin frame.expectedEnd (c :: rest)
      else do afterValueIn steps (frame :: frames) (← frame.afterKey (c :: rest))

end

def skipValue : Reader Unit := fun cs => do
  let rest ← afterValueIn (2 * cs.length + 2) [] cs
  .ok ((), rest)

end QuoteGateway.Json
