import QuoteGateway.CacheKey
import QuoteGateway.Gateway
import QuoteGateway.Quota

/-!
# The gate

Decides whether a request of an API key may go ahead, and records it afterwards. The usage log of a
key is read from the cache; on a miss the key is looked up in the store and starts with an empty
log. Reading and writing the log are two calls, so requests at the same time may work from the same
log.
-/

namespace QuoteGateway.Gate

def loadState (id : String) : Job QuotaState := do
  match ← Job.readEntry QuotaState.reader (CacheKey.ofApiKey id) with
  | some state => return state
  | none =>
    match ← Job.call (.findKey id) with
    | some key => return .ofKey key
    | none => throw (.unknownApiKey id)

/-- The usage log of a key whose request may go ahead. Nothing is recorded yet. -/
def authorize (limit : RateLimit) (id : String) (now : Calendar.Instant) : Job QuotaState := do
  if id.isEmpty then throw .missingApiKey
  let state ← loadState id
  let start := limit.windowStart now
  if state.tier.isLimited && !state.isWithin start limit.maxUsages then
    Job.report (.quotaExceeded id (state.usagesSince start))
    throw (.quotaExceeded id limit.maxUsages limit.window.seconds)
  return state

def recordUsage (limit : RateLimit) (state : QuotaState) (now : Calendar.Instant) :
    Job QuotaState := do
  let state := state.record now.unixSeconds (limit.windowStart now)
  Job.writeEntry (CacheKey.ofApiKey state.apiKeyId) state.document limit.stateLifetime
  return state

end QuoteGateway.Gate
