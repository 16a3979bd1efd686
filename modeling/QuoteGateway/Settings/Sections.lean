import QuoteGateway.Cache.InMemory
import QuoteGateway.Feed
import QuoteGateway.KeyStore.Seeded
import QuoteGateway.Quote.Service
import QuoteGateway.Quote.Updater
import QuoteGateway.Settings.Decoder

/-!
# The settings of the gateway

Every section and every field may be left out and then has its default. A declared API key must
name its identifier.
-/

namespace QuoteGateway

open Settings (Section Decoder Field)

inductive LogFormat where
  | pretty
  | json
deriving DecidableEq

structure LoggingSettings where
  level : String
  format : LogFormat
deriving DecidableEq

def LogFormat.decoder : Decoder LogFormat :=
  .oneOf "LogFormat" [("pretty", .pretty), ("json", .json)]

def LoggingSettings.layout : Section LoggingSettings where
  name := "LoggingConfig"
  draft := ⟨"info", .pretty⟩
  fields := [
    .of "level" .text fun level draft => { draft with level },
    .of "format" LogFormat.decoder fun format draft => { draft with format }]

structure MetricsSettings where
  enabled : Bool
  listenAddress : Net.SocketAddress
deriving DecidableEq

def MetricsSettings.layout : Section MetricsSettings where
  name := "MetricsConfig"
  draft := ⟨false, ⟨.four [0, 0, 0, 0], 9090⟩⟩
  fields := [
    .of "enabled" .flag fun enabled draft => { draft with enabled },
    .of "listen_addr" .address fun listenAddress draft => { draft with listenAddress }]

inductive CacheKind where
  | inMemory
  | redis
deriving DecidableEq

def CacheKind.text : CacheKind → String
  | .inMemory => "in_memory"
  | .redis => "redis"

structure CacheSettings where
  kind : CacheKind
  serverUrl : Option String
  keySpace : Option String
  maxCapacity : Option UInt64
deriving DecidableEq

def CacheKind.decoder : Decoder CacheKind :=
  .oneOf "CacheType"
    [("in_memory", .inMemory), ("inmemory", .inMemory), ("memory", .inMemory), ("redis", .redis)]

def CacheSettings.layout : Section CacheSettings where
  name := "CacheConfig"
  draft := ⟨.inMemory, none, none, some (.ofNat Cache.InMemory.Shared.standardCapacity)⟩
  fields := [
    .of "type" CacheKind.decoder fun kind draft => { draft with kind },
    .of "redis_url" (.optional .text) fun serverUrl draft => { draft with serverUrl },
    .of "key_prefix" (.optional .text) fun keySpace draft => { draft with keySpace },
    .of "max_capacity" (.optional .unsigned) fun maxCapacity draft => { draft with maxCapacity }]

def CacheSettings.capacity (settings : CacheSettings) : Nat :=
  match settings.maxCapacity with
  | none => Cache.InMemory.Shared.standardCapacity
  | some n => n.toNat

inductive StoreKind where
  | seeded
  | database
deriving DecidableEq

def StoreKind.text : StoreKind → String
  | .seeded => "in_memory"
  | .database => "postgres"

structure StoreSettings where
  kind : StoreKind
  databaseUrl : Option String
  maxConnections : UInt32
  seeds : List KeyStore.Seed
deriving DecidableEq

def StoreKind.decoder : Decoder StoreKind :=
  .oneOf "StoreType"
    [("in_memory", .seeded), ("inmemory", .seeded), ("memory", .seeded), ("postgres", .database),
      ("postgresql", .database)]

def Tier.decoder : Decoder Tier := .oneOf "ApiKeyTier" Tier.options

def KeyStore.Seed.layout : Section KeyStore.Seed where
  name := "ApiKeySeed"
  draft := ⟨"", "", .undefined⟩
  fields := [
    .required "api_key_id" .text fun apiKeyId draft => { draft with apiKeyId },
    .of "user_id" .text fun userId draft => { draft with userId },
    .of "tier" Tier.decoder fun tier draft => { draft with tier }]

def StoreSettings.layout : Section StoreSettings where
  name := "StoreConfig"
  draft := ⟨.seeded, none, 5, []⟩
  fields := [
    .of "type" StoreKind.decoder fun kind draft => { draft with kind },
    .of "database_url" (.optional .text) fun databaseUrl draft => { draft with databaseUrl },
    .of "max_connections" .unsigned32 fun maxConnections draft => { draft with maxConnections },
    .of "api_keys" (.list KeyStore.Seed.layout.decoder) fun seeds draft => { draft with seeds }]

structure RateLimitSettings where
  windowSeconds : UInt64
  maxUsages : UInt64
  stateLifetimeSeconds : UInt64
  recording : UsageRecording
deriving DecidableEq

def UsageRecording.decoder : Decoder UsageRecording :=
  .oneOf "UsageRecordingPolicy" [("strict", .strict), ("best_effort", .bestEffort)]

def RateLimitSettings.layout : Section RateLimitSettings where
  name := "RateLimitSettings"
  draft := ⟨.ofNat RateLimit.defaultWindow.seconds, RateLimit.defaultMaxUsages,
    .ofNat RateLimit.defaultLifetime.seconds, .strict⟩
  fields := [
    .of "window_secs" .unsigned fun windowSeconds draft => { draft with windowSeconds },
    .of "max_usages" .count fun maxUsages draft => { draft with maxUsages },
    .of "state_ttl_secs" .unsigned fun stateLifetimeSeconds draft =>
      { draft with stateLifetimeSeconds },
    .of "usage_recording" UsageRecording.decoder fun recording draft => { draft with recording }]

def RateLimitSettings.limit (settings : RateLimitSettings) : RateLimit where
  window := .ofSeconds settings.windowSeconds.toNat
  maxUsages := settings.maxUsages
  stateLifetime := .ofSeconds settings.stateLifetimeSeconds.toNat

structure UpdaterSettings where
  intervalSeconds : UInt64
  rateLifetimeSeconds : UInt64
  bases : List String
deriving DecidableEq

def UpdaterSettings.layout : Section UpdaterSettings where
  name := "UpdaterSettings"
  draft := ⟨.ofNat UpdaterPlan.standardInterval.seconds,
    .ofNat RateLimit.defaultLifetime.seconds, standardBases⟩
  fields := [
    .of "interval_secs" .unsigned fun intervalSeconds draft => { draft with intervalSeconds },
    .of "rate_ttl_secs" .unsigned fun rateLifetimeSeconds draft =>
      { draft with rateLifetimeSeconds },
    .of "base_currencies" (.list .text) fun bases draft => { draft with bases }]

/-- The plan of the updater, whose interval is one second at least. -/
def UpdaterSettings.plan (settings : UpdaterSettings) : UpdaterPlan where
  interval := .ofSeconds (max 1 settings.intervalSeconds.toNat)
  rateLifetime := .ofSeconds settings.rateLifetimeSeconds.toNat
  bases := settings.bases

structure FeedSettings where
  baseUrl : String
  apiKey : String
  timeoutSeconds : UInt64
deriving DecidableEq

def FeedSettings.layout : Section FeedSettings where
  name := "FxSourceSettings"
  draft := ⟨Feed.standardUrl, "", .ofNat Feed.standardTimeout.seconds⟩
  fields := [
    .of "base_url" .text fun baseUrl draft => { draft with baseUrl },
    .of "api_key" .text fun apiKey draft => { draft with apiKey },
    .of "timeout_secs" .unsigned fun timeoutSeconds draft => { draft with timeoutSeconds }]

def FeedSettings.feed (settings : FeedSettings) : Feed where
  baseUrl := settings.baseUrl
  apiKey := settings.apiKey
  timeout := .ofSeconds settings.timeoutSeconds.toNat

structure QuoteSettings where
  timeoutSeconds : UInt64
deriving DecidableEq

def QuoteSettings.layout : Section QuoteSettings where
  name := "QuoteSettings"
  draft := ⟨5⟩
  fields := [.of "timeout_secs" .unsigned fun timeoutSeconds draft =>
    { draft with timeoutSeconds }]

def QuoteSettings.timeout (settings : QuoteSettings) : Duration :=
  .ofSeconds settings.timeoutSeconds.toNat

structure Settings where
  logging : LoggingSettings
  metrics : MetricsSettings
  cache : CacheSettings
  store : StoreSettings
  rateLimit : RateLimitSettings
  updater : UpdaterSettings
  feed : FeedSettings
  quote : QuoteSettings
deriving DecidableEq

namespace Settings

def standard : Settings where
  logging := LoggingSettings.layout.draft
  metrics := MetricsSettings.layout.draft
  cache := CacheSettings.layout.draft
  store := StoreSettings.layout.draft
  rateLimit := RateLimitSettings.layout.draft
  updater := UpdaterSettings.layout.draft
  feed := FeedSettings.layout.draft
  quote := QuoteSettings.layout.draft

def layout : Section Settings where
  name := "AppConfig"
  draft := standard
  fields := [
    .of "logging" LoggingSettings.layout.decoder fun logging draft => { draft with logging },
    .of "metrics" MetricsSettings.layout.decoder fun metrics draft => { draft with metrics },
    .of "cache" CacheSettings.layout.decoder fun cache draft => { draft with cache },
    .of "store" StoreSettings.layout.decoder fun store draft => { draft with store },
    .of "rate_limit" RateLimitSettings.layout.decoder fun rateLimit draft =>
      { draft with rateLimit },
    .of "updater" UpdaterSettings.layout.decoder fun updater draft => { draft with updater },
    .of "fx_source" FeedSettings.layout.decoder fun feed draft => { draft with feed },
    .of "quote" QuoteSettings.layout.decoder fun quote draft => { draft with quote }]

def read (s : String) : Except Json.ReadError Settings := Json.readText layout.decoder.json s

def ofTree (tree : Tree) : Except Misfit Settings := layout.decoder.tree tree

def policy (settings : Settings) : QuotePolicy :=
  ⟨settings.rateLimit.limit, settings.rateLimit.recording⟩

end Settings

end QuoteGateway
