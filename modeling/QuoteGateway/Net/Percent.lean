import QuoteGateway.Net.Octets
import QuoteGateway.Text.Numeral
import QuoteGateway.Text.Pieces

/-!
# Percent encoding and forms

Characters that may not stand for themselves are written as their octets in UTF-8, each as a
percent sign and two hexadecimal digits. A form is a list of names with values; a blank in it is
written as a plus sign.
-/

namespace QuoteGateway.Net

def hexDigit (n : Nat) : Char := (Nat.digitChar n).toUpper

def percentOctet (octet : UInt8) : List Char :=
  ['%', hexDigit (octet.toNat / 16), hexDigit (octet.toNat % 16)]

/-- A character, encoded unless it may stand for itself. -/
def percentChar (plain : Char → Bool) (c : Char) : List Char :=
  if plain c then [c] else (String.utf8EncodeChar c).flatMap percentOctet

def percentText (plain : Char → Bool) (cs : List Char) : List Char :=
  cs.flatMap (percentChar plain)

def octetOf (c : Char) : UInt8 := UInt8.ofNat c.toNat

/-- The octets of an encoded text. A percent sign without two digits stands for itself. -/
def percentDecoded : List Char → List UInt8
  | [] => []
  | '%' :: a :: b :: rest =>
    match Text.hexDigit? a, Text.hexDigit? b with
    | some x, some y => UInt8.ofNat (x * 16 + y) :: percentDecoded rest
    | _, _ => octetOf '%' :: percentDecoded (a :: b :: rest)
  | c :: rest => String.utf8EncodeChar c ++ percentDecoded rest

namespace Form

def isPlain (c : Char) : Bool :=
  c.isAlphanum || c == '*' || c == '-' || c == '.' || c == '_'

def writeChar (c : Char) : List Char := if c = ' ' then ['+'] else percentChar isPlain c

def writeText (s : String) : List Char := s.toList.flatMap writeChar

def write (fields : List (String × String)) : List Char :=
  Text.joined '&' (fields.map fun field => writeText field.1 ++ '=' :: writeText field.2)

def readText? (cs : List Char) : Option String :=
  decodedText? (percentDecoded (cs.map fun c => if c = '+' then ' ' else c))

def readField? (cs : List Char) : Option (String × String) := do
  let name ← readText? (cs.takeWhile (· != '='))
  let value ← readText? ((cs.dropWhile (· != '=')).drop 1)
  some (name, value)

def read? (cs : List Char) : Option (List (String × String)) :=
  ((Text.pieces '&' cs).filter (!·.isEmpty)).mapM readField?

end Form

end QuoteGateway.Net
