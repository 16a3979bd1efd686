import QuoteGateway.Number.Literal
import QuoteGateway.Number.Shortest
import QuoteGateway.Text.LetterCase
import QuoteGateway.Text.Numeral
import QuoteGateway.Text.Quoted

/-!
# Trees of settings

Settings from files and the environment before they are given their types: texts, numbers and truth
values in lists and tables. A value remembers where it was set. Values are converted to the type
that a setting asks for as far as their text or number allows.
-/

namespace QuoteGateway.Settings

inductive Leaf where
  | null
  | flag (b : Bool)
  | integer (i : Int)
  | real (x : Number.Binary64)
  | text (s : String)
deriving DecidableEq

inductive Tree where
  | leaf (origin : Option String) (value : Leaf)
  | list (origin : Option String) (items : List Tree)
  | table (origin : Option String) (members : List (String × Tree))

inductive Found where
  | leaf (value : Leaf)
  | unsigned (n : Nat)
  | list
  | table

def Tree.origin : Tree → Option String
  | .leaf origin _ => origin
  | .list origin _ => origin
  | .table origin _ => origin

def Tree.found : Tree → Found
  | .leaf _ value => .leaf value
  | .list .. => .list
  | .table .. => .table

/-- A value that could not be converted, with the width of its number. -/
def Found.describe : Found → String
  | .leaf .null => "unit value"
  | .leaf (.flag b) => "boolean `" ++ toString b ++ "`"
  | .leaf (.integer i) => "64-bit integer `" ++ String.ofList (Text.integerNumeral i) ++ "`"
  | .leaf (.real x) => "floating point `" ++ String.ofList (Number.Layout.plain.write x) ++ "`"
  | .leaf (.text s) => "string " ++ Text.quoted s
  | .unsigned n => "64-bit unsigned integer `" ++ toString n ++ "`"
  | .list => "sequence"
  | .table => "map"

/-- A value that has no parts where parts were expected, or parts of another kind. -/
def Found.describeShape : Found → String
  | .leaf (.integer i) => "integer `" ++ String.ofList (Text.integerNumeral i) ++ "`"
  | .leaf (.real x) => "floating point `" ++ String.ofList (Number.Layout.pointed.write x) ++ "`"
  | found => found.describe

inductive Misfit where
  | wrongType (found : Found) (expected : String) (key origin : Option String)
  | wrongShape (found : Found) (expected : String)
  | wrongLength (length : Nat) (expected : String)
  | unknownOption (choice name : String)
  | notOption (choice : String)
  | missingField (name : String)
  | refused (message : String)

namespace Misfit

/-- A key with the part of the path that leads to it. Indices follow without a point. -/
def longerKey (step : String) : Option String → String
  | none => step
  | some key => if key.startsWith "[" then step ++ key else step ++ "." ++ key

/-- A misfit seen from the table or list around the value. -/
def under (step : String) : Misfit → Misfit
  | .wrongType found expected key origin =>
    .wrongType found expected (some (longerKey step key)) origin
  | misfit => misfit

def clause (start finish : String) : Option String → String
  | none => ""
  | some s => start ++ s ++ finish

def message : Misfit → String
  | .wrongType found expected key origin =>
    "invalid type: " ++ found.describe ++ ", expected " ++ expected ++
      clause " for key `" "`" key ++ clause " in " "" origin
  | .wrongShape found expected =>
    "invalid type: " ++ found.describeShape ++ ", expected " ++ expected
  | .wrongLength length expected =>
    "invalid length " ++ toString length ++ ", expected " ++ expected
  | .unknownOption choice name =>
    "enum " ++ choice ++ " does not have variant constructor " ++ name
  | .notOption choice =>
    "value of enum " ++ choice ++
      " should be represented by either string or table with exactly one key"
  | .missingField name => "missing field `" ++ name ++ "`"
  | .refused message => message

end Misfit

namespace Tree

def misfit {α : Type} (tree : Tree) (expected : String) : Except Misfit α :=
  .error (.wrongType tree.found expected none tree.origin)

def flagWord? (s : String) : Option Bool :=
  if s = "true" ∨ s = "on" ∨ s = "yes" then some true
  else if s = "false" ∨ s = "off" ∨ s = "no" then some false
  else none

/-- A truth value: a number is true unless it is zero. -/
def asFlag (tree : Tree) : Except Misfit Bool :=
  match tree with
  | .leaf _ (.flag b) => .ok b
  | .leaf _ (.integer i) => .ok (i != 0)
  | .leaf _ (.real x) => .ok !x.isZero
  | .leaf origin (.text s) =>
    let s := Text.lowercase s
    if s = "1" then .ok true
    else if s = "0" then .ok false
    else match flagWord? s with
      | some b => .ok b
      | none => .error (.wrongType (.leaf (.text s)) "a boolean" none origin)
  | tree => tree.misfit "a boolean"

def bitOf (b : Bool) : UInt64 := if b then 1 else 0

/-- A number of 64 bits without a sign. Fractions are rounded, a half away from zero. -/
def asUnsigned (tree : Tree) : Except Misfit UInt64 :=
  match tree with
  | .leaf _ (.flag b) => .ok (bitOf b)
  | .leaf _ (.integer i) =>
    if 0 ≤ i then .ok (UInt64.ofNat i.toNat)
    else tree.misfit "an unsigned 64 bit or less integer"
  | .leaf _ (.real x) => .ok (UInt64.ofNat (x.clampedRound 0 (UInt64.size - 1 : Nat)).toNat)
  | .leaf _ (.text s) =>
    match flagWord? (Text.lowercase s), Text.unsigned64? s.toList with
    | some b, _ => .ok (bitOf b)
    | none, some n => .ok n
    | none, none => tree.misfit "an integer"
  | tree => tree.misfit "an integer"

def asUnsigned32 (tree : Tree) : Except Misfit UInt32 := do
  let n ← tree.asUnsigned
  if n.toNat < UInt32.size then .ok n.toUInt32
  else .error (.wrongType (.unsigned n.toNat) "an unsigned 32 bit integer" none none)

def asText (tree : Tree) : Except Misfit String :=
  match tree with
  | .leaf _ (.text s) => .ok s
  | .leaf _ (.flag b) => .ok (toString b)
  | .leaf _ (.integer i) => .ok (String.ofList (Text.integerNumeral i))
  | .leaf _ (.real x) => .ok (String.ofList (Number.Layout.plain.write x))
  | tree => tree.misfit "a string"

end Tree

end QuoteGateway.Settings
