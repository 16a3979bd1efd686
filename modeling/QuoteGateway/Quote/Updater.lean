import QuoteGateway.CacheKey
import QuoteGateway.Gateway

/-!
# Publishing rates

A cycle fetches all rates from their source and writes each under the key of its pair. The first
write that fails ends the cycle.
-/

namespace QuoteGateway

structure UpdaterPlan where
  interval : Duration
  rateLifetime : Duration
  bases : List String
deriving DecidableEq

def standardBases : List String := ["USD", "GBP", "EUR", "JPY", "CHF", "CAD", "AUD"]

namespace UpdaterPlan

def standardInterval : Duration := .ofSeconds 20

def standard : UpdaterPlan := ⟨standardInterval, .ofSeconds 600, standardBases⟩

/-- Writes rates in order, after `published` earlier ones, and counts them up to a failure. -/
def publish (plan : UpdaterPlan) (published : Nat) : List FeedRate → Job Nat
  | [] => do
    Job.report (.ratesPublished published)
    return published
  | rate :: rates => do
    let key := CacheKey.ofRate rate.base rate.target
    match ← ExceptT.lift (Job.writeEntry key rate.cached.document plan.rateLifetime).run with
    | .ok () => plan.publish (published + 1) rates
    | .error failure =>
      Job.report (.ratesPublished published)
      throw failure

/-- Fetches and publishes all rates, and tells how many. -/
def refresh (plan : UpdaterPlan) : Job Nat := do
  let rates ← Job.call (.fetchRates plan.bases)
  plan.publish 0 rates

def cycle (plan : UpdaterPlan) : Dialogue gatewaySignature Unit := do
  match ← plan.refresh.run with
  | .ok _ => Dialogue.report (S := gatewaySignature) (.cycleFinished true)
  | .error failure =>
    Dialogue.report (S := gatewaySignature) (.cycleFailed failure)
    Dialogue.report (S := gatewaySignature) (.cycleFinished false)

end UpdaterPlan

end QuoteGateway
