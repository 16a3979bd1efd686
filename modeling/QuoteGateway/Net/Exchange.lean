import QuoteGateway.Net.Url
import QuoteGateway.Text.LetterCase
import QuoteGateway.Text.WhiteSpace

/-!
# Requests and responses as octets

A request asks for what is at an address and closes the connection after it. A response is read
once the connection has been closed by the other side.
-/

namespace QuoteGateway.Net

def Url.target (url : Url) : String :=
  String.ofList (Url.writePath url.path ++ Url.writeMarked '?' url.query)

def Url.hostText (url : Url) : String :=
  String.ofList (url.host.getD [] ++ Url.writePort url.port)

def Url.portOrDefault (url : Url) (default : Nat) : Nat :=
  url.port.getD ((Url.specialSchemes.lookup url.scheme).getD default)

def requestText (url : Url) (accept : String) : String :=
  "\r\n".intercalate
    ["GET " ++ url.target ++ " HTTP/1.1", "host: " ++ url.hostText, "accept: " ++ accept,
      "connection: close", "", ""]

structure Response where
  code : Nat
  body : List UInt8
deriving DecidableEq

/-- Octets as characters within the first 256 code points. -/
def charsOf (octets : List UInt8) : List Char := octets.map fun octet => Char.ofNat octet.toNat

/-- The lines before an empty one, and the octets after it. -/
def headLines? : (steps : Nat) → List UInt8 → Option (List (List Char) × List UInt8)
  | 0, _ => none
  | steps + 1, octets => do
    let (line, rest) ← firstLine? octets
    if line.isEmpty then some ([], rest)
    else
      let (lines, body) ← headLines? steps rest
      some (charsOf line :: lines, body)

def statusCode? (line : List Char) : Option Nat :=
  match Text.pieces ' ' line with
  | version :: code :: _ =>
    if "HTTP/1.".toList.isPrefixOf version ∧ code.length = 3 then Text.natural? code else none
  | _ => none

/-- The value of a field of the head. Names of fields are compared in small letters. -/
def headField? (name : String) (lines : List (List Char)) : Option (List Char) :=
  lines.findSome? fun line =>
    if Text.lowercase (String.ofList (line.takeWhile (· != ':'))) = name then
      some (Text.trim ((line.dropWhile (· != ':')).drop 1))
    else none

/-- The octets of a body that is sent in chunks, each after its length in base 16. -/
def unchunked? : (steps : Nat) → List UInt8 → Option (List UInt8)
  | 0, _ => none
  | steps + 1, octets => do
    let (line, rest) ← firstLine? octets
    let digits := (charsOf line).takeWhile fun c => (Text.hexDigit? c).isSome
    if digits.isEmpty then none
    else
      let size := hexNumber digits
      if size = 0 then some []
      else if rest.length < size + 2 then none
      else
        let more ← unchunked? steps (rest.drop (size + 2))
        some (rest.take size ++ more)

def announcedBody? (lines : List (List Char)) (octets : List UInt8) : Option (List UInt8) :=
  match headField? "transfer-encoding" lines, headField? "content-length" lines with
  | some _, _ => unchunked? octets.length octets
  | none, some numeral => do
    let size ← Text.natural? numeral
    if octets.length < size then none else some (octets.take size)
  | none, none => some octets

def Response.read? (octets : List UInt8) : Option Response := do
  match ← headLines? octets.length octets with
  | ([], _) => none
  | (status :: fields, rest) =>
    let code ← statusCode? status
    let body ← announcedBody? fields rest
    some ⟨code, body⟩

end QuoteGateway.Net
