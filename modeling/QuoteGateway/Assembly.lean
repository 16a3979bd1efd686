import QuoteGateway.Cache.RedisUrl
import QuoteGateway.KeyStore.Seeded
import QuoteGateway.Settings.Load

/-!
# Putting the gateway together

Settings choose the cache, the key store and the feed of rates. A gateway starts only if its cache
and its key store can be reached.
-/

namespace QuoteGateway

inductive StartFault where
  | badSettings (cause : Settings.LoadFault)
  | failed (failure : Failure)
  | cacheUnreachable (failure : Failure)
  | storeUnreachable (failure : Failure)
  | noFeedKey

def StartFault.message : StartFault → String
  | .badSettings cause => cause.message
  | .failed failure => failure.message
  | .cacheUnreachable failure => "Cache backend is unreachable: " ++ failure.message
  | .storeUnreachable failure => "API key store is unreachable: " ++ failure.message
  | .noFeedKey => "fx_source.api_key is required to run the updater"

inductive CacheChoice where
  | inMemory (capacity : Nat)
  | server (url : Net.Url) (space : Option String)
deriving DecidableEq

def CacheSettings.choice (settings : CacheSettings) : Except StartFault CacheChoice :=
  match settings.kind, settings.serverUrl with
  | .inMemory, _ => .ok (.inMemory settings.capacity)
  | .redis, none =>
    .error (.failed (.reported .configuration "Redis URL is required for Redis cache type"))
  | .redis, some text =>
    match Cache.Redis.readUrl text with
    | .ok url => .ok (.server url settings.keySpace)
    | .error cause =>
      .error (.failed (.reported .cache ("Failed to create Redis client: " ++ cause.message)))

inductive StoreChoice where
  | seeded (seeds : List KeyStore.Seed)
  | database (url : String) (maxConnections : UInt32)
deriving DecidableEq

def StoreSettings.choice (settings : StoreSettings) : Except StartFault StoreChoice :=
  match settings.kind, settings.databaseUrl with
  | .seeded, _ => .ok (.seeded settings.seeds)
  | .database, some url => .ok (.database url settings.maxConnections)
  | .database, none =>
    .error (.failed (.reported .configuration "database_url is required for the postgres store"))

def cacheNotConnected (cause : String) : StartFault :=
  .failed (.reported .cache ("Failed to connect to Redis: " ++ cause))

def storeNotConnected (cause : String) : StartFault :=
  .failed (.reported .storage ("Failed to connect to database: " ++ cause))

/-- The feed of the updater, which needs a key. -/
def Settings.updaterFeed (settings : Settings) : Except StartFault Feed :=
  if settings.feed.apiKey.isEmpty then .error .noFeedKey else .ok settings.feed.feed

abbrev Start (α : Type) := ExceptT StartFault (Dialogue gatewaySignature) α

def ensureCacheReachable : Start Unit :=
  ExceptT.adapt .cacheUnreachable (Job.call (.cache .ping))

def ensureStoreReachable : Start Unit :=
  ExceptT.adapt .storeUnreachable (Job.call .pingStore)

end QuoteGateway
