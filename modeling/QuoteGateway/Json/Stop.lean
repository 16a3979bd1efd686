import QuoteGateway.Number.Shortest
import QuoteGateway.Text.Quoted
import QuoteGateway.Text.Numeral

/-!
# Where and why reading stops

A reader of JSON text either succeeds or stops. A stop knows its cause and how many bytes of the
text were left, from which line and column follow. A cause that is found only after a whole value
has been read is placed by the value around it.
-/

namespace QuoteGateway.Json

inductive Found where
  | null
  | flag (b : Bool)
  | integer (i : Int)
  | real (x : Number.Binary64)
  | text (s : String)
  | list
  | object
deriving DecidableEq

inductive Fault where
  | endInList
  | endInObject
  | endInText
  | endInValue
  | expectedColon
  | expectedListEnd
  | expectedObjectEnd
  | expectedWord
  | expectedValue
  | badEscape
  | badNumber
  | numberTooLarge
  | controlCharacter
  | keyNotText
  | loneSurrogate
  | unfinishedSurrogate
  | trailingComma
  | trailingCharacters
  | tooDeep
  | wrongType (found : Found) (expected : String)
  | wrongValue (found : Found) (expected : String)
  | wrongLength (length : Nat) (expected : String)
  | unknownOption (name : String) (options : List String)
  | missingField (name : String)
  | duplicateField (name : String)
  /-- A text that its type does not accept, in the words of that type. -/
  | refused (message : String)
deriving DecidableEq

def Found.describe : Found → String
  | .null => "null"
  | .flag b => "boolean `" ++ toString b ++ "`"
  | .integer i => "integer `" ++ String.ofList (Text.integerNumeral i) ++ "`"
  | .real x => "floating point `" ++ String.ofList (Number.Layout.ofRecords.write x) ++ "`"
  | .text s => "string " ++ Text.quoted s
  | .list => "sequence"
  | .object => "map"

def optionList (options : List String) : String :=
  match options.map fun name => "`" ++ name ++ "`" with
  | [] => "there are no variants"
  | [one] => "expected " ++ one
  | [one, other] => "expected " ++ one ++ " or " ++ other
  | many => "expected one of " ++ ", ".intercalate many

def Fault.message : Fault → String
  | .endInList => "EOF while parsing a list"
  | .endInObject => "EOF while parsing an object"
  | .endInText => "EOF while parsing a string"
  | .endInValue => "EOF while parsing a value"
  | .expectedColon => "expected `:`"
  | .expectedListEnd => "expected `,` or `]`"
  | .expectedObjectEnd => "expected `,` or `\x7d`"
  | .expectedWord => "expected ident"
  | .expectedValue => "expected value"
  | .badEscape => "invalid escape"
  | .badNumber => "invalid number"
  | .numberTooLarge => "number out of range"
  | .controlCharacter => "control character (\\u0000-\\u001F) found while parsing a string"
  | .keyNotText => "key must be a string"
  | .loneSurrogate => "lone leading surrogate in hex escape"
  | .unfinishedSurrogate => "unexpected end of hex escape"
  | .trailingComma => "trailing comma"
  | .trailingCharacters => "trailing characters"
  | .tooDeep => "recursion limit exceeded"
  | .wrongType found expected => "invalid type: " ++ found.describe ++ ", expected " ++ expected
  | .wrongValue found expected => "invalid value: " ++ found.describe ++ ", expected " ++ expected
  | .wrongLength length expected =>
    "invalid length " ++ toString length ++ ", expected " ++ expected
  | .unknownOption name options => "unknown variant `" ++ name ++ "`, " ++ optionList options
  | .missingField name => "missing field `" ++ name ++ "`"
  | .duplicateField name => "duplicate field `" ++ name ++ "`"
  | .refused message => message

def byteLength (cs : List Char) : Nat := cs.foldl (fun n c => n + c.utf8Size) 0

/-- A line, counted from 1, and the bytes read on it. -/
structure Position where
  line : Nat
  column : Nat
deriving DecidableEq

def Position.after : List Char → (bytes : Nat) → (start : Position) → Position
  | [], _, start => start
  | c :: rest, bytes, start =>
    if bytes < c.utf8Size then ⟨start.line, start.column + bytes⟩
    else
      Position.after rest (bytes - c.utf8Size)
        (if c = '\n' then ⟨start.line + 1, 0⟩ else ⟨start.line, start.column + c.utf8Size⟩)

/-- Why a text could not be read, and where unless the cause lies in the text as a whole. -/
structure ReadError where
  fault : Fault
  position : Option Position
deriving DecidableEq

def ReadError.message (e : ReadError) : String :=
  match e.position with
  | none => e.fault.message
  | some p => e.fault.message ++ " at line " ++ toString p.line ++ " column " ++ toString p.column

inductive Stop where
  /-- A stop with this many bytes of the text left. -/
  | placed (fault : Fault) (bytesLeft : Nat)
  /-- A stop that the surrounding value will place, with the text that was left. -/
  | unplaced (fault : Fault) (rest : List Char)

def stopBefore {α : Type} (fault : Fault) (rest : List Char) : Except Stop α :=
  .error (.placed fault (byteLength rest))

/-- A stop that counts the next byte as read, if there is one. -/
def stopWithin {α : Type} (fault : Fault) (rest : List Char) : Except Stop α :=
  .error (.placed fault (byteLength rest - 1))

def Stop.inText (text : List Char) : Stop → ReadError
  | .placed fault bytesLeft =>
    ⟨fault, some (Position.after text (byteLength text - bytesLeft) ⟨1, 0⟩)⟩
  | .unplaced fault _ => ⟨fault, none⟩

/-- A reader takes a value from the start of a text and leaves the rest. -/
abbrev Reader (α : Type) := List Char → Except Stop (α × List Char)

end QuoteGateway.Json
