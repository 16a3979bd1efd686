import QuoteGateway.Quote.Gate
import QuoteGateway.Quote.Lookup

/-!
# Answering requests

A request passes the gate, is resolved, and is recorded, in this order. Nothing is recorded unless
every pair has a rate. A list without pairs is refused before the gate.
-/

namespace QuoteGateway

/-- What happens to a request that cannot be recorded. -/
inductive UsageRecording where
  /-- The request fails. -/
  | strict
  /-- The request is answered all the same. -/
  | bestEffort
deriving DecidableEq

structure QuotePolicy where
  limit : RateLimit
  recording : UsageRecording

namespace QuotePolicy

/-- Answers a request for a list of pairs. -/
def answer (policy : QuotePolicy) (id : String) (pairs : List CurrencyPair)
    (now : Calendar.Instant) : Job QuoteResponse := do
  if pairs.isEmpty then throw .noPairs
  let state ← Gate.authorize policy.limit id now
  let rates ← Lookup.resolveAll pairs
  match ← ExceptT.lift (Gate.recordUsage policy.limit state now).run with
  | .ok _ => return ⟨rates⟩
  | .error failure =>
    match policy.recording with
    | .strict => throw failure
    | .bestEffort =>
      Job.report (.usageNotRecorded id failure)
      return ⟨rates⟩

/-- Answers a request and counts its outcome. -/
def serve (policy : QuotePolicy) (id : String) (pairs : List CurrencyPair)
    (now : Calendar.Instant) : Dialogue gatewaySignature (Except Failure QuoteResponse) := do
  let result ← (policy.answer id pairs now).run
  Dialogue.report (S := gatewaySignature) (.requestFinished (outcomeLabel result))
  return result

end QuotePolicy

end QuoteGateway
