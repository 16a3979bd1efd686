import QuoteGateway.Text.Numeral

/-!
# Socket addresses

An address of version 4 or 6 with a port. The longest run of zero groups of a version 6 address is
written as two colons, and an address that stands for one of version 4 ends with its four numbers.
-/

namespace QuoteGateway.Net

inductive IpAddress where
  | four (octets : List Nat)
  | six (groups : List Nat) (scope : Nat)
deriving DecidableEq

structure SocketAddress where
  ip : IpAddress
  port : Nat
deriving DecidableEq

abbrev AddressPart (α : Type) := List Char → Option (α × List Char)

def afterChar (mark : Char) : List Char → Option (List Char)
  | [] => none
  | c :: rest => if c = mark then some rest else none

def boundedNumber (bound : Nat) : AddressPart Nat := fun cs => do
  let n ← Text.natural? (cs.takeWhile Char.isDigit)
  if n < bound then some (n, cs.dropWhile Char.isDigit) else none

def octetPart : AddressPart Nat := fun cs => do
  let digits := cs.takeWhile Char.isDigit
  let n ← Text.natural? digits
  if n < 256 ∧ (digits.length = 1 ∨ digits.head? ≠ some '0') then
    some (n, cs.dropWhile Char.isDigit)
  else none

def fourOctets : AddressPart (List Nat) := fun cs => do
  let (a, cs) ← octetPart cs
  let (b, cs) ← octetPart (← afterChar '.' cs)
  let (c, cs) ← octetPart (← afterChar '.' cs)
  let (d, cs) ← octetPart (← afterChar '.' cs)
  some ([a, b, c, d], cs)

def hexNumber (cs : List Char) : Nat := cs.foldl (fun n c => n * 16 + (Text.hexDigit? c).getD 0) 0

def groupPart : AddressPart Nat := fun cs =>
  let digits := cs.takeWhile fun c => (Text.hexDigit? c).isSome
  if digits.isEmpty ∨ 4 < digits.length then none
  else some (hexNumber digits, cs.drop digits.length)

def pairedOctets : List Nat → List Nat
  | [a, b, c, d] => [a * 256 + b, c * 256 + d]
  | _ => []

/-- At most `room` groups with colons between them, of which four octets may be the last two. The
result tells whether they are. -/
def groupsPart : (room : Nat) → (first : Bool) → List Char → List Nat × Bool × List Char
  | 0, _, cs => ([], false, cs)
  | room + 1, first, cs =>
    match if first then some cs else afterChar ':' cs with
    | none => ([], false, cs)
    | some start =>
      match if room = 0 then none else fourOctets start with
      | some (octets, rest) => (pairedOctets octets, true, rest)
      | none =>
        match groupPart start with
        | none => ([], false, cs)
        | some (group, rest) =>
          let (groups, paired, rest) := groupsPart room false rest
          (group :: groups, paired, rest)

/-- The eight groups of a version 6 address, some of which may be left out at two colons. -/
def eightGroups : AddressPart (List Nat) := fun cs =>
  let (head, paired, rest) := groupsPart 8 true cs
  if head.length = 8 then some (head, rest)
  else if paired then none
  else do
    let rest ← afterChar ':' (← afterChar ':' rest)
    let (tail, _, rest) := groupsPart (7 - head.length) true rest
    some (head ++ List.replicate (8 - head.length - tail.length) 0 ++ tail, rest)

/-- The scope after a version 6 address, 0 where there is none. -/
def scopePart : AddressPart Nat := fun cs =>
  match cs with
  | '%' :: rest => boundedNumber UInt32.size rest
  | _ => some (0, cs)

def ipPart : AddressPart IpAddress := fun cs =>
  match fourOctets cs with
  | some (octets, rest) => some (.four octets, rest)
  | none => do
    let (groups, rest) ← eightGroups (← afterChar '[' cs)
    let (scope, rest) ← scopePart rest
    some (.six groups scope, ← afterChar ']' rest)

def SocketAddress.read? (s : String) : Option SocketAddress := do
  let (ip, rest) ← ipPart s.toList
  let (port, rest) ← boundedNumber UInt16.size (← afterChar ':' rest)
  if rest.isEmpty then some ⟨ip, port⟩ else none

def writeNumbers (base : Nat) (separator : Char) : List Nat → List Char
  | [] => []
  | [n] => Nat.toDigits base n
  | n :: next :: rest =>
    Nat.toDigits base n ++ separator :: writeNumbers base separator (next :: rest)

def leadingZeros (groups : List Nat) : Nat := (groups.takeWhile (· == 0)).length

/-- Where the first of the longest runs of zeros starts, and its length. -/
def longestZeros : (start : Nat) → List Nat → Nat × Nat
  | _, [] => (0, 0)
  | start, group :: rest =>
    let later := longestZeros (start + 1) rest
    let here := leadingZeros (group :: rest)
    if here ≠ 0 ∧ later.2 ≤ here then (start, here) else later

/-- Groups in hexadecimal digits, with the longest run of two zeros or more left out. -/
def writeGroups (groups : List Nat) : List Char :=
  let (start, length) := longestZeros 0 groups
  if 2 ≤ length then
    writeNumbers 16 ':' (groups.take start) ++ ':' :: ':' ::
      writeNumbers 16 ':' (groups.drop (start + length))
  else writeNumbers 16 ':' groups

/-- A version 6 address, by its octets where it stands for one of version 4. -/
def writeSix (groups : List Nat) : List Char :=
  match groups with
  | [0, 0, 0, 0, 0, 0xffff, a, b] =>
    [':', ':', 'f', 'f', 'f', 'f', ':'] ++
      writeNumbers 10 '.' [a / 256, a % 256, b / 256, b % 256]
  | _ => writeGroups groups

def writeScope (scope : Nat) : List Char :=
  if scope = 0 then [] else '%' :: Nat.toDigits 10 scope

def IpAddress.write : IpAddress → List Char
  | .four octets => writeNumbers 10 '.' octets
  | .six groups scope => '[' :: writeSix groups ++ writeScope scope ++ [']']

def SocketAddress.text (address : SocketAddress) : String :=
  String.ofList (address.ip.write ++ ':' :: Nat.toDigits 10 address.port)

end QuoteGateway.Net
