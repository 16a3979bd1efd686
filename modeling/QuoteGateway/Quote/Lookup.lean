import QuoteGateway.CacheKey
import QuoteGateway.Gateway

/-!
# Looking rates up

Pairs are resolved one after the other from the published rates. The first pair without a rate
fails the whole list.
-/

namespace QuoteGateway.Lookup

def resolve (pair : CurrencyPair) : Job RateResult := do
  let entry := Job.readEntry CachedRate.reader (CacheKey.ofRate pair.base pair.target)
  match ← ExceptT.adapt (fun cause => Failure.rateNotRead pair cause) entry with
  | some cached => return .ofCached pair cached
  | none => throw (.noRate pair)

/-- The published rates of a list of pairs, in its order. -/
def resolveAll : List CurrencyPair → Job (List RateResult)
  | [] => return []
  | pair :: pairs => do
    let result ← resolve pair
    let results ← resolveAll pairs
    return result :: results

end QuoteGateway.Lookup
