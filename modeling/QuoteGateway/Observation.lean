import QuoteGateway.Feed
import QuoteGateway.Gateway
import QuoteGateway.Table

/-!
# What operators see

Counters of finished requests, of updater cycles and of published rates, and the lines that tell of
refused and failed work.
-/

namespace QuoteGateway

def labelled (counter label value : String) : String :=
  counter ++ "\x7b" ++ label ++ "=" ++ value ++ "\x7d"

def requestCounter : String := "fx_quote_requests_total"
def cycleCounter : String := "fx_update_cycles_total"
def publishedCounter : String := "fx_rates_published_total"

def cycleOutcome (succeeded : Bool) : String := if succeeded then "success" else "error"

def Event.advance? : Event → Option (String × Nat)
  | .requestFinished outcome => some (labelled requestCounter "outcome" outcome, 1)
  | .ratesPublished count => some (publishedCounter, count)
  | .cycleFinished succeeded => some (labelled cycleCounter "outcome" (cycleOutcome succeeded), 1)
  | .quotaExceeded .. | .usageNotRecorded .. | .cycleFailed _ => none

/-- Counters advanced by an event. One that is advanced by nothing is there from then on. -/
def countEvent (counters : Table Nat) (event : Event) : Table Nat :=
  match event.advance? with
  | none => counters
  | some (name, n) => counters.put name ((counters.get? name).getD 0 + n)

def Event.line? : Event → Option String
  | .quotaExceeded id count =>
    some ("WARN API key exceeded its quota api_key=" ++ id ++ " count=" ++ toString count)
  | .usageNotRecorded id failure =>
    some ("WARN Failed to record API key usage api_key=" ++ id ++ " error=" ++ failure.message)
  | .cycleFailed failure =>
    some ("ERROR Quote update cycle failed error=" ++ failure.message)
  | .requestFinished _ | .ratesPublished _ | .cycleFinished _ => none

def Feed.ErrorReply.line (reply : Feed.ErrorReply) : String :=
  "ERROR fastFOREX returned an error status status=" ++ Net.statusText reply.code ++
    " base=" ++ reply.base

end QuoteGateway
