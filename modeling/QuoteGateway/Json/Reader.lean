import QuoteGateway.Json.Numeral
import QuoteGateway.Json.Skip

/-!
# Readers of typed values

Readers for texts, numbers, choices, lists, dictionaries and records. Each reader knows the words
for what it expects. A record is read from an object with its field names or from a list with its
fields in order; unknown names are skipped and repeated ones refused.
-/

namespace QuoteGateway.Json

open Number (Binary64)

def valueStart (cs : List Char) : Except Stop (List Char) :=
  match skipBlanks cs with
  | [] => stopBefore .endInValue []
  | cs => .ok cs

/-- Reads a value only to say that it has the wrong type. -/
def wrongType {α : Type} (expected : String) (cs : List Char) : Except Stop α :=
  match cs with
  | [] => stopBefore .expectedValue []
  | c :: rest =>
    if c = 'n' then do
      stopBefore (.wrongType .null expected) (← afterWord ['u', 'l', 'l'] rest)
    else if c = 't' then do
      stopBefore (.wrongType (.flag true) expected) (← afterWord ['r', 'u', 'e'] rest)
    else if c = 'f' then do
      stopBefore (.wrongType (.flag false) expected) (← afterWord ['a', 'l', 's', 'e'] rest)
    else if c = '-' ∨ c.isDigit then do
      let (n, after) ← numeral (c :: rest)
      stopBefore (.wrongType n.found expected) after
    else if c = '"' then do
      let (s, after) ← openText rest
      stopBefore (.wrongType (.text s) expected) after
    else if c = '[' then stopBefore (.wrongType .list expected) (c :: rest)
    else if c = '{' then stopBefore (.wrongType .object expected) (c :: rest)
    else stopWithin .expectedValue (c :: rest)

/-- Reads a text with a parser of its own, whose refusal is placed after the text. -/
def parsedText {α : Type} (expected : String) (parse : String → Except Fault α) : Reader α :=
  fun cs => do
    let cs ← valueStart cs
    match cs with
    | '"' :: rest =>
      let (s, after) ← openText rest
      match parse s with
      | .ok a => .ok (a, after)
      | .error fault => stopBefore fault after
    | _ => wrongType expected cs

def text : Reader String := parsedText "a string" .ok

/-- Reads a text that a value is made from only afterwards, so that the value around it places a
refusal. -/
def textFor {α : Type} (make : String → Except Fault α) : Reader α := fun cs => do
  let (s, after) ← text cs
  match make s with
  | .ok a => .ok (a, after)
  | .error fault => .error (.unplaced fault after)

def flag : Reader Bool := fun cs => do
  let cs ← valueStart cs
  match cs with
  | 't' :: rest => do .ok (true, ← afterWord ['r', 'u', 'e'] rest)
  | 'f' :: rest => do .ok (false, ← afterWord ['a', 'l', 's', 'e'] rest)
  | _ => wrongType "a boolean" cs

def numberAs {α : Type} (expected : String) (take : Numeral → Except Fault α) : Reader α :=
  fun cs => do
    let cs ← valueStart cs
    if cs.head? = some '-' ∨ startsWithDigit cs then
      let (n, after) ← numeral cs
      match take n with
      | .ok a => .ok (a, after)
      | .error fault => stopBefore fault after
    else wrongType expected cs

def integerWithin (expected : String) (low high : Int) : Reader Int :=
  numberAs expected fun n =>
    match n with
    | .natural n =>
      if (n : Int) ≤ high then .ok n else .error (.wrongValue (.integer n) expected)
    | .negative i => if low ≤ i then .ok i else .error (.wrongValue (.integer i) expected)
    | .real x => .error (.wrongType (.real x) expected)

def signed64 : Reader Int64 := fun cs => do
  let (i, rest) ← integerWithin "i64" Int64.minValue.toInt Int64.maxValue.toInt cs
  .ok (Int64.ofInt i, rest)

def real : Reader Binary64 :=
  numberAs "f64" fun n =>
    match n with
    | .natural n => .ok (.ofNat n)
    | .negative i => .ok (.ofInt i)
    | .real x => .ok x

def optional {α : Type} (value : Reader α) : Reader (Option α) := fun cs =>
  match skipBlanks cs with
  | 'n' :: rest => do .ok (none, ← afterWord ['u', 'l', 'l'] rest)
  | cs => do
    let (a, after) ← value cs
    .ok (some a, after)

/-- The text from the next item of an open list, or nothing before the end of the list. -/
def nextItem (first : Bool) (cs : List Char) : Except Stop (Option (List Char)) :=
  match skipBlanks cs with
  | [] => stopBefore .endInList []
  | c :: rest =>
    if c = ']' then .ok none
    else if first then .ok (some (c :: rest))
    else if c = ',' then
      match skipBlanks rest with
      | [] => stopBefore .endInValue []
      | ']' :: after => stopWithin .trailingComma (']' :: after)
      | item => .ok (some item)
    else stopWithin .expectedListEnd (c :: rest)

/-- The text from the name of the next member of an open object, after its quote, or nothing before
the end of the object. -/
def nextKey (first : Bool) (cs : List Char) : Except Stop (Option (List Char)) :=
  match skipBlanks cs with
  | [] => stopBefore .endInObject []
  | c :: rest =>
    if c = '}' then .ok none
    else if first then
      if c = '"' then .ok (some rest) else stopWithin .keyNotText (c :: rest)
    else if c = ',' then
      match skipBlanks rest with
      | [] => stopBefore .endInValue []
      | '"' :: key => .ok (some key)
      | '}' :: after => stopWithin .trailingComma ('}' :: after)
      | other => stopWithin .keyNotText other
    else stopWithin .expectedObjectEnd (c :: rest)

def afterColon (cs : List Char) : Except Stop (List Char) :=
  match skipBlanks cs with
  | [] => stopBefore .endInObject []
  | ':' :: rest => .ok rest
  | other => stopWithin .expectedColon other

def afterListEnd (cs : List Char) : Except Stop (List Char) :=
  match skipBlanks cs with
  | [] => stopBefore .endInList []
  | ']' :: rest => .ok rest
  | ',' :: rest =>
    match skipBlanks rest with
    | ']' :: after => stopWithin .trailingComma (']' :: after)
    | other => stopWithin .trailingCharacters other
  | other => stopWithin .trailingCharacters other

def afterObjectEnd (cs : List Char) : Except Stop (List Char) :=
  match skipBlanks cs with
  | [] => stopBefore .endInObject []
  | '}' :: rest => .ok rest
  | ',' :: rest => stopWithin .trailingComma (',' :: rest)
  | other => stopWithin .trailingCharacters other

/-- Places a stop inside a list: after the end of the list where it follows, or after the comma. -/
def placedInList (fault : Fault) (rest : List Char) : Stop :=
  match skipBlanks rest with
  | ']' :: after => .placed fault (byteLength after)
  | ',' :: after => .placed fault (byteLength (skipBlanks after))
  | other => .placed fault (byteLength other)

/-- Places a stop inside an object: after the end of the object where it follows. -/
def placedInObject (fault : Fault) (rest : List Char) : Stop :=
  match skipBlanks rest with
  | '}' :: after => .placed fault (byteLength after)
  | other => .placed fault (byteLength other)

/-- Reads the inside of a list and the end of it. -/
def insideList {α : Type} (inside : Reader α) : Reader α := fun cs =>
  match inside cs with
  | .ok (a, rest) => do .ok (a, ← afterListEnd rest)
  | .error (.unplaced fault rest) => .error (placedInList fault rest)
  | .error placed => .error placed

/-- Reads the inside of an object and the end of it. -/
def insideObject {α : Type} (inside : Reader α) : Reader α := fun cs =>
  match inside cs with
  | .ok (a, rest) => do .ok (a, ← afterObjectEnd rest)
  | .error (.unplaced fault rest) => .error (placedInObject fault rest)
  | .error placed => .error placed

/-- The items of an open list. Each takes a character at least, so as many steps as there are
characters are enough. -/
def items {α : Type} (item : Reader α) : (steps : Nat) → (first : Bool) → Reader (List α)
  | 0, _, cs => stopBefore .endInList cs
  | steps + 1, first, cs => do
    match ← nextItem first cs with
    | none => .ok ([], cs)
    | some start =>
      let (a, rest) ← item start
      let (more, rest) ← items item steps false rest
      .ok (a :: more, rest)

def list {α : Type} (item : Reader α) : Reader (List α) := fun cs => do
  let cs ← valueStart cs
  match cs with
  | '[' :: rest => insideList (items item (rest.length + 1) true) rest
  | _ => wrongType "a sequence" cs

def members {α : Type} (value : Reader α) :
    (steps : Nat) → (first : Bool) → Reader (List (String × α))
  | 0, _, cs => stopBefore .endInObject cs
  | steps + 1, first, cs => do
    match ← nextKey first cs with
    | none => .ok ([], cs)
    | some start =>
      let (key, rest) ← openText start
      let (a, rest) ← value (← afterColon rest)
      let (more, rest) ← members value steps false rest
      .ok ((key, a) :: more, rest)

/-- Reads an object as a dictionary, with its members in the order of the text. -/
def dictionary {α : Type} (value : Reader α) : Reader (List (String × α)) := fun cs => do
  let cs ← valueStart cs
  match cs with
  | '{' :: rest => insideObject (members value (rest.length + 1) true) rest
  | _ => wrongType "a map" cs

def optionName {α : Type} (options : List (String × α)) : Reader α :=
  parsedText "variant identifier" fun name =>
    match options.lookup name with
    | some a => .ok a
    | none => .error (.unknownOption name (options.map (·.1)))

def nullValue : Reader Unit := fun cs => do
  let cs ← valueStart cs
  match cs with
  | 'n' :: rest => do .ok ((), ← afterWord ['u', 'l', 'l'] rest)
  | _ => wrongType "unit" cs

/-- Reads one of several options: its name, or an object with its name and `null`. -/
def oneOf {α : Type} (options : List (String × α)) : Reader α := fun cs =>
  match skipBlanks cs with
  | [] => stopBefore .endInValue []
  | '"' :: rest => optionName options ('"' :: rest)
  | '{' :: rest => do
    let (a, rest) ← optionName options rest
    let ((), rest) ← nullValue (← afterColon rest)
    match skipBlanks rest with
    | [] => stopBefore .endInObject []
    | '}' :: after => .ok (a, after)
    | other => stopBefore .expectedValue other
  | other => stopWithin .expectedValue other

inductive Presence where
  /-- The field is never missing. -/
  | required
  /-- The field may be missing from an object, but not from a list. -/
  | namedOptional
  /-- The field may be missing. -/
  | defaulted
deriving DecidableEq

/-- A field of a record: its value changes a draft of the record. -/
structure Field (α : Type) where
  name : String
  presence : Presence
  change : Reader (α → α)

def Field.of {α β : Type} (name : String) (presence : Presence) (value : Reader β)
    (put : β → α → α) : Field α where
  name := name
  presence := presence
  change cs := (value cs).map fun (b, rest) => (put b, rest)

/-- A record: its name in messages, a draft with every default, and its fields in order. -/
structure RecordShape (α : Type) where
  name : String
  draft : α
  fields : List (Field α)

def RecordShape.expected {α : Type} (shape : RecordShape α) : String := "struct " ++ shape.name

def RecordShape.expectedLength {α : Type} (shape : RecordShape α) : String :=
  let n := shape.fields.length
  shape.expected ++ " with " ++ toString n ++ (if n = 1 then " element" else " elements")

def RecordShape.inOrder {α : Type} (shape : RecordShape α) :
    List (Field α) → (index : Nat) → (first : Bool) → α → Reader α
  | [], _, _, draft, cs => .ok (draft, cs)
  | field :: fields, index, first, draft, cs => do
    match ← nextItem first cs with
    | some start =>
      let (change, rest) ← field.change start
      shape.inOrder fields (index + 1) false (change draft) rest
    | none =>
      if field.presence = .defaulted then shape.inOrder fields (index + 1) first draft cs
      else .error (.unplaced (.wrongLength index shape.expectedLength) cs)

/-- The fields of an open object, by name. The result also tells which names have been seen. -/
def RecordShape.byName {α : Type} (shape : RecordShape α) :
    (steps : Nat) → (first : Bool) → (seen : List String) → α → Reader (α × List String)
  | 0, _, _, _, cs => stopBefore .endInObject cs
  | steps + 1, first, seen, draft, cs => do
    match ← nextKey first cs with
    | none => .ok ((draft, seen), cs)
    | some start =>
      let (key, rest) ← openText start
      match shape.fields.find? (·.name == key) with
      | none =>
        let ((), rest) ← skipValue (← afterColon rest)
        shape.byName steps false seen draft rest
      | some field =>
        if seen.contains key then .error (.unplaced (.duplicateField key) rest)
        else
          let (change, rest) ← field.change (← afterColon rest)
          shape.byName steps false (key :: seen) (change draft) rest

def RecordShape.complete {α : Type} (shape : RecordShape α) : Reader α := fun cs => do
  let ((a, seen), rest) ← shape.byName (cs.length + 1) true [] shape.draft cs
  let missing := shape.fields.find? fun field =>
    field.presence == .required && !seen.contains field.name
  match missing with
  | none => .ok (a, rest)
  | some field => .error (.unplaced (.missingField field.name) rest)

def record {α : Type} (shape : RecordShape α) : Reader α := fun cs => do
  let cs ← valueStart cs
  match cs with
  | '[' :: rest => insideList (shape.inOrder shape.fields 0 true shape.draft) rest
  | '{' :: rest => insideObject shape.complete rest
  | _ => wrongType shape.expected cs

def readText {α : Type} (reader : Reader α) (s : String) : Except ReadError α :=
  let cs := s.toList
  let result : Except Stop α := do
    let (a, rest) ← reader cs
    match skipBlanks rest with
    | [] => .ok a
    | other => stopWithin .trailingCharacters other
  result.mapError (·.inText cs)

end QuoteGateway.Json
