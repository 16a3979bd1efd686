import QuoteGateway.ApiKey
import QuoteGateway.Duration

/-!
# Quotas

The requests served for an API key are kept as a log of unix seconds. A key is within its quota
while fewer than the allowed number of them lie in the window that ends now.
-/

namespace QuoteGateway

structure RateLimit where
  window : Duration
  maxUsages : UInt64
  /-- How long the log of a key is kept after its last request. -/
  stateLifetime : Duration
deriving DecidableEq

namespace RateLimit

def defaultWindow : Duration := .ofSeconds 60
def defaultMaxUsages : UInt64 := 2

/-- How long logs and rates are kept unless configured otherwise. -/
def defaultLifetime : Duration := .ofSeconds 600

def standard : RateLimit := ⟨defaultWindow, defaultMaxUsages, defaultLifetime⟩

/-- The oldest unix second inside the window that ends at an instant. The seconds of the window
are taken as a signed number of 64 bits. -/
def windowStart (limit : RateLimit) (now : Calendar.Instant) : Int64 :=
  now.unixSeconds - Int64.ofNat limit.window.seconds

end RateLimit

/-- The usage log of an API key, with its tier at the time of the first request. -/
structure QuotaState where
  apiKeyId : String
  tier : Tier
  usages : List Int64
deriving DecidableEq

namespace QuotaState

def ofKey (key : ApiKey) : QuotaState := ⟨key.apiKeyId, key.tier, []⟩

def usagesSince (state : QuotaState) (start : Int64) : Nat :=
  state.usages.countP fun t => start ≤ t

def isWithin (state : QuotaState) (start : Int64) (maxUsages : UInt64) : Bool :=
  state.usagesSince start < maxUsages.toNat

def prune (state : QuotaState) (start : Int64) : QuotaState :=
  { state with usages := state.usages.filter fun t => start ≤ t }

/-- The state with one more request, pruned first. -/
def record (state : QuotaState) (now start : Int64) : QuotaState :=
  { state.prune start with usages := (state.prune start).usages ++ [now] }

def usageDocument (t : Int64) : Json.Document := .object [("timestamp", .integer t.toInt)]

def document (state : QuotaState) : Json.Document :=
  .object [("api_key_id", .text state.apiKeyId), ("tier", state.tier.document),
    ("usages", .list (state.usages.map usageDocument))]

def usageShape : Json.RecordShape Int64 where
  name := "ApiKeyUsage"
  draft := 0
  fields := [.of "timestamp" .required Json.signed64 fun timestamp _ => timestamp]

def usageReader : Json.Reader Int64 := Json.record usageShape

def shape : Json.RecordShape QuotaState where
  name := "ApiKeyQuotaState"
  draft := ⟨"", .undefined, []⟩
  fields := [
    .of "api_key_id" .required Json.text fun apiKeyId draft => { draft with apiKeyId },
    .of "tier" .required Tier.reader fun tier draft => { draft with tier },
    .of "usages" .defaulted (Json.list usageReader) fun usages draft => { draft with usages }]

def reader : Json.Reader QuotaState := Json.record shape

theorem usages_prune (state : QuotaState) (start : Int64) :
    (state.prune start).usages = state.usages.filter fun t => start ≤ t := rfl

theorem usages_record (state : QuotaState) (now start : Int64) :
    (state.record now start).usages = (state.usages.filter fun t => start ≤ t) ++ [now] := rfl

end QuotaState

end QuoteGateway
