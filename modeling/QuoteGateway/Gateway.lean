import QuoteGateway.ApiKey
import QuoteGateway.Cache.Call
import QuoteGateway.Dialogue
import QuoteGateway.Rate

/-!
# Calls of the gateway

The gateway calls three collaborators: the cache, the key store and the source of rates. Each call
may fail. A job is a dialogue over these calls that ends with a result or a failure, and it tells of
what the operators of the gateway want to see.
-/

namespace QuoteGateway

inductive Call where
  | cache (call : Cache.Call)
  | findKey (id : String)
  | pingStore
  | fetchRates (bases : List String)
deriving DecidableEq

def Call.Result : Call → Type
  | .cache call => call.Result
  | .findKey _ => Option ApiKey
  | .pingStore => Unit
  | .fetchRates _ => List FeedRate

inductive Event where
  | quotaExceeded (id : String) (count : Nat)
  | usageNotRecorded (id : String) (failure : Failure)
  | requestFinished (outcome : String)
  | ratesPublished (count : Nat)
  | cycleFailed (failure : Failure)
  | cycleFinished (succeeded : Bool)

def gatewaySignature : Signature where
  Call := Call
  Answer call := Except Failure call.Result
  Event := Event

/-- A dialogue with the collaborators that ends with a result or a failure. -/
abbrev Job (α : Type) := ExceptT Failure (Dialogue gatewaySignature) α

namespace Job

def call (c : Call) : Job c.Result := ExceptT.mk (Dialogue.call (S := gatewaySignature) c)

def report (event : Event) : Job Unit :=
  ExceptT.lift (Dialogue.report (S := gatewaySignature) event)

/-- Reads an entry with a reader of its type. An entry that cannot be read is a failure. -/
def readEntry {α : Type} (reader : Json.Reader α) (key : String) : Job (Option α) := do
  match ← call (.cache (.read key)) with
  | none => return none
  | some text =>
    match Json.readText reader text with
    | .ok a => return some a
    | .error cause => throw (.unreadableEntry key cause)

def writeEntry (key : String) (document : Json.Document) (lifetime : Duration) : Job Unit :=
  call (.cache (.write key document.compact lifetime))

def removeEntry (key : String) : Job Unit := do
  let _ ← call (.cache (.delete key))

/-- Whether an entry exists, for a cache that answers this by reading it. -/
def containsByReading (key : String) : Job Bool := do
  let entry ← call (.cache (.read key))
  return Option.isSome entry

/-- Whether a cache can be reached, for one that answers this by reading. -/
def pingByReading : Job Unit := do
  let _ ← containsByReading Cache.pingKey

end Job

end QuoteGateway
