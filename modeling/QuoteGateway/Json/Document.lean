import QuoteGateway.Json.Reader

/-!
# JSON documents

A document is written compactly, with the members of an object in their order, or with one member
or item to a line. Numbers that are not finite are written as `null`.
-/

namespace QuoteGateway.Json

inductive Document where
  | null
  | flag (b : Bool)
  | integer (i : Int)
  | real (x : Number.Binary64)
  | text (s : String)
  | list (items : List Document)
  | object (members : List (String × Document))

namespace Document

def writeFlag (b : Bool) : List Char :=
  if b then ['t', 'r', 'u', 'e'] else ['f', 'a', 'l', 's', 'e']

def writeReal (x : Number.Binary64) : List Char :=
  if x.isFinite then Number.Layout.ofRecords.write x else ['n', 'u', 'l', 'l']

mutual

def write : Document → List Char
  | .null => ['n', 'u', 'l', 'l']
  | .flag b => writeFlag b
  | .integer i => Text.integerNumeral i
  | .real x => writeReal x
  | .text s => writeText s
  | .list items => '[' :: writeItems items
  | .object members => '{' :: writeMembers members

def writeItems : List Document → List Char
  | [] => [']']
  | [item] => write item ++ [']']
  | item :: next :: items => write item ++ ',' :: writeItems (next :: items)

def writeMembers : List (String × Document) → List Char
  | [] => ['}']
  | [(name, value)] => writeText name ++ ':' :: (write value ++ ['}'])
  | (name, value) :: next :: members =>
    writeText name ++ ':' :: (write value ++ ',' :: writeMembers (next :: members))

end

def compact (d : Document) : String := String.ofList d.write

def newLine (depth : Nat) : List Char := '\n' :: List.replicate (2 * depth) ' '

mutual

/-- The text of a document with each item and member on a line of its own. -/
def spread (depth : Nat) : Document → List Char
  | .list [] => ['[', ']']
  | .object [] => ['{', '}']
  | .list items => '[' :: spreadItems (depth + 1) items
  | .object members => '{' :: spreadMembers (depth + 1) members
  | .null => ['n', 'u', 'l', 'l']
  | .flag b => writeFlag b
  | .integer i => Text.integerNumeral i
  | .real x => writeReal x
  | .text s => writeText s

def spreadItems (depth : Nat) : List Document → List Char
  | [] => []
  | [item] => newLine depth ++ spread depth item ++ newLine (depth - 1) ++ [']']
  | item :: next :: items =>
    newLine depth ++ spread depth item ++ ',' :: spreadItems depth (next :: items)

def spreadMembers (depth : Nat) : List (String × Document) → List Char
  | [] => []
  | [(name, value)] =>
    newLine depth ++ writeText name ++ ':' :: ' ' :: spread depth value ++
      newLine (depth - 1) ++ ['}']
  | (name, value) :: next :: members =>
    newLine depth ++ writeText name ++ ':' :: ' ' :: spread depth value ++
      ',' :: spreadMembers depth (next :: members)

end

def pretty (d : Document) : String := String.ofList (spread 0 d)

/-- Greatest number of lists and objects that may be open at once. -/
def depthLimit : Nat := 127

/-- The document of a number. Whole numbers beyond 64 signed bits become binary64 numbers. -/
def ofNumeral : Numeral → Document
  | .natural n => if n ≤ Int64.maxValue.toInt then .integer n else .real (.ofNat n)
  | .negative i => .integer i
  | .real x => .real x

def putMember (name : String) (value : Document) :
    List (String × Document) → List (String × Document)
  | [] => [(name, value)]
  | (other, old) :: rest =>
    if other = name then (name, value) :: rest else (other, old) :: putMember name value rest

/-- Reads any document with at most `depth` lists and objects inside each other. -/
def ofText : (depth : Nat) → Reader Document
  | depth, cs => do
    let cs ← valueStart cs
    match cs with
    | [] => stopBefore .endInValue []
    | c :: rest =>
      if c = 'n' then do .ok (.null, ← afterWord ['u', 'l', 'l'] rest)
      else if c = 't' then do .ok (.flag true, ← afterWord ['r', 'u', 'e'] rest)
      else if c = 'f' then do .ok (.flag false, ← afterWord ['a', 'l', 's', 'e'] rest)
      else if c = '-' ∨ c.isDigit then do
        let (n, after) ← numeral (c :: rest)
        .ok (ofNumeral n, after)
      else if c = '"' then do
        let (s, after) ← openText rest
        .ok (.text s, after)
      else if c = '[' then
        match depth with
        | 0 => stopWithin .tooDeep (c :: rest)
        | depth + 1 => do
          let (items, after) ← insideList (items (ofText depth) (rest.length + 1) true) rest
          .ok (.list items, after)
      else if c = '{' then
        match depth with
        | 0 => stopWithin .tooDeep (c :: rest)
        | depth + 1 => do
          let (members, after) ←
            insideObject (members (ofText depth) (rest.length + 1) true) rest
          .ok (.object (members.foldl (fun kept (name, value) => putMember name value kept) []),
            after)
      else stopWithin .expectedValue (c :: rest)

def read (s : String) : Except ReadError Document := readText (ofText depthLimit) s

end Document

end QuoteGateway.Json
