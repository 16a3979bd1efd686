import QuoteGateway.Cache.Redis
import QuoteGateway.Net.Octets
import QuoteGateway.Text.Numeral

/-!
# Commands and replies as octets

A command is sent as an array of its words. A reply is read from the octets that have come in so
far, which may hold only a part of it.
-/

namespace QuoteGateway.Cache.Redis

def writeWord (word : String) : List UInt8 :=
  Net.octetsOf ("$" ++ toString word.utf8ByteSize) ++ Net.lineEnd ++ Net.octetsOf word ++
    Net.lineEnd

def writeWords (words : List String) : List UInt8 :=
  Net.octetsOf ("*" ++ toString words.length) ++ Net.lineEnd ++ words.flatMap writeWord

/-- What is known from the octets that have come in. -/
inductive Received (α : Type) where
  | whole (a : α) (rest : List UInt8)
  | incomplete
  | malformed

def readSized (size : Nat) (octets : List UInt8) : Received Reply :=
  if octets.length < size + Net.lineEnd.length then .incomplete
  else match Net.decodedText? (octets.take size) with
    | some text => .whole (.bulk text) (octets.drop (size + Net.lineEnd.length))
    | none => .malformed

def readEach (readOne : List UInt8 → Received Reply) :
    (count : Nat) → List UInt8 → Received (List Reply)
  | 0, octets => .whole [] octets
  | count + 1, octets =>
    match readOne octets with
    | .whole reply rest =>
      match readEach readOne count rest with
      | .whole replies rest => .whole (reply :: replies) rest
      | .incomplete => .incomplete
      | .malformed => .malformed
    | .incomplete => .incomplete
    | .malformed => .malformed

/-- A reply in which arrays are nested less than `depth` deep. -/
def readReply : (depth : Nat) → List UInt8 → Received Reply
  | 0, _ => .malformed
  | depth + 1, octets =>
    match Net.firstLine? octets with
    | none => .incomplete
    | some (line, rest) =>
      match (Net.decodedText? line).map String.toList with
      | some ('+' :: text) => .whole (.status (String.ofList text)) rest
      | some ('-' :: text) => .whole (.error (String.ofList text)) rest
      | some (mark :: numeral) =>
        match mark, Text.integer? numeral with
        | ':', some i => .whole (.integer i) rest
        | '$', some (.ofNat size) => readSized size rest
        | '$', some _ => .whole .nil rest
        | '*', some (.ofNat count) =>
          match readEach (readReply depth) count rest with
          | .whole replies rest => .whole (.array replies) rest
          | .incomplete => .incomplete
          | .malformed => .malformed
        | '*', some _ => .whole .nil rest
        | _, _ => .malformed
      | _ => .malformed

def deepestReply : Nat := 64

end QuoteGateway.Cache.Redis
