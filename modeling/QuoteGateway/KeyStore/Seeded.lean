import QuoteGateway.ApiKey
import QuoteGateway.Table

/-!
# Keys declared in the settings

A store whose keys are fixed when the gateway starts. Of two declarations of one key the later one
counts.
-/

namespace QuoteGateway.KeyStore

/-- A declared key. It has no number in a database and does not expire. -/
structure Seed where
  apiKeyId : String
  userId : String
  tier : Tier
deriving DecidableEq

def Seed.key (seed : Seed) : ApiKey := ⟨0, seed.apiKeyId, seed.userId, seed.tier, none⟩

def seededKeys (seeds : List Seed) : Table ApiKey :=
  .ofList (seeds.map fun seed => (seed.apiKeyId, seed.key))

end QuoteGateway.KeyStore
