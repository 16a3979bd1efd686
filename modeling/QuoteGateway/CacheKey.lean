import QuoteGateway.Text.LetterCase

/-!
# Keys of cache entries

The log of an API key is kept under its identifier as it stands, the rate of a pair under the names
of its currencies in small letters.
-/

namespace QuoteGateway.CacheKey

def ofApiKey (id : String) : String := "api_key_" ++ id

def ofRate (base target : String) : String :=
  "rate_" ++ Text.lowercase base ++ "_" ++ Text.lowercase target

end QuoteGateway.CacheKey
