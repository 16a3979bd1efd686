import QuoteGateway.Proofs.Settings.Kinds

/-!
# Every setting

The settings of the gateway, each with its place in its section and with the kind of its values.
Together they are all that a section and the whole hold.
-/

namespace QuoteGateway

open Settings (Section Decoder Field Slot)

attribute [ext] LoggingSettings MetricsSettings CacheSettings StoreSettings RateLimitSettings
  UpdaterSettings FeedSettings QuoteSettings Settings

def LoggingSettings.formatSlot : Slot LoggingSettings.layout LogFormat where
  name := "format"
  decoder := LogFormat.decoder
  get := LoggingSettings.format
  put format draft := { draft with format }

def MetricsSettings.enabledSlot : Slot MetricsSettings.layout Bool where
  name := "enabled"
  decoder := .flag
  get := MetricsSettings.enabled
  put enabled draft := { draft with enabled }

def MetricsSettings.listenAddressSlot : Slot MetricsSettings.layout Net.SocketAddress where
  name := "listen_addr"
  decoder := .address
  get := MetricsSettings.listenAddress
  put listenAddress draft := { draft with listenAddress }

def CacheSettings.kindSlot : Slot CacheSettings.layout CacheKind where
  name := "type"
  decoder := CacheKind.decoder
  get := CacheSettings.kind
  put kind draft := { draft with kind }

def CacheSettings.maxCapacitySlot : Slot CacheSettings.layout (Option UInt64) where
  name := "max_capacity"
  decoder := .optional .unsigned
  get := CacheSettings.maxCapacity
  put maxCapacity draft := { draft with maxCapacity }

def StoreSettings.kindSlot : Slot StoreSettings.layout StoreKind where
  name := "type"
  decoder := StoreKind.decoder
  get := StoreSettings.kind
  put kind draft := { draft with kind }

def StoreSettings.maxConnectionsSlot : Slot StoreSettings.layout UInt32 where
  name := "max_connections"
  decoder := .unsigned32
  get := StoreSettings.maxConnections
  put maxConnections draft := { draft with maxConnections }

def StoreSettings.seedsSlot : Slot StoreSettings.layout (List KeyStore.Seed) where
  name := "api_keys"
  decoder := .list KeyStore.Seed.layout.decoder
  get := StoreSettings.seeds
  put seeds draft := { draft with seeds }

def RateLimitSettings.windowSecondsSlot : Slot RateLimitSettings.layout UInt64 where
  name := "window_secs"
  decoder := .unsigned
  get := RateLimitSettings.windowSeconds
  put windowSeconds draft := { draft with windowSeconds }

def RateLimitSettings.maxUsagesSlot : Slot RateLimitSettings.layout UInt64 where
  name := "max_usages"
  decoder := .count
  get := RateLimitSettings.maxUsages
  put maxUsages draft := { draft with maxUsages }

def RateLimitSettings.stateLifetimeSecondsSlot : Slot RateLimitSettings.layout UInt64 where
  name := "state_ttl_secs"
  decoder := .unsigned
  get := RateLimitSettings.stateLifetimeSeconds
  put stateLifetimeSeconds draft := { draft with stateLifetimeSeconds }

def RateLimitSettings.recordingSlot : Slot RateLimitSettings.layout UsageRecording where
  name := "usage_recording"
  decoder := UsageRecording.decoder
  get := RateLimitSettings.recording
  put recording draft := { draft with recording }

def UpdaterSettings.intervalSecondsSlot : Slot UpdaterSettings.layout UInt64 where
  name := "interval_secs"
  decoder := .unsigned
  get := UpdaterSettings.intervalSeconds
  put intervalSeconds draft := { draft with intervalSeconds }

def UpdaterSettings.rateLifetimeSecondsSlot : Slot UpdaterSettings.layout UInt64 where
  name := "rate_ttl_secs"
  decoder := .unsigned
  get := UpdaterSettings.rateLifetimeSeconds
  put rateLifetimeSeconds draft := { draft with rateLifetimeSeconds }

def UpdaterSettings.basesSlot : Slot UpdaterSettings.layout (List String) where
  name := "base_currencies"
  decoder := .list .text
  get := UpdaterSettings.bases
  put bases draft := { draft with bases }

def FeedSettings.timeoutSecondsSlot : Slot FeedSettings.layout UInt64 where
  name := "timeout_secs"
  decoder := .unsigned
  get := FeedSettings.timeoutSeconds
  put timeoutSeconds draft := { draft with timeoutSeconds }

def QuoteSettings.timeoutSecondsSlot : Slot QuoteSettings.layout UInt64 where
  name := "timeout_secs"
  decoder := .unsigned
  get := QuoteSettings.timeoutSeconds
  put timeoutSeconds draft := { draft with timeoutSeconds }

namespace Settings

def metricsSlot : Slot layout MetricsSettings where
  name := "metrics"
  decoder := MetricsSettings.layout.decoder
  get := Settings.metrics
  put metrics settings := { settings with metrics }

def rateLimitSlot : Slot layout RateLimitSettings where
  name := "rate_limit"
  decoder := RateLimitSettings.layout.decoder
  get := Settings.rateLimit
  put rateLimit settings := { settings with rateLimit }

def updaterSlot : Slot layout UpdaterSettings where
  name := "updater"
  decoder := UpdaterSettings.layout.decoder
  get := Settings.updater
  put updater settings := { settings with updater }

def quoteSlot : Slot layout QuoteSettings where
  name := "quote"
  decoder := QuoteSettings.layout.decoder
  get := Settings.quote
  put quote settings := { settings with quote }

/-- A setting of a section: its place, and how its values are stated. -/
structure Setting {σ : Type} (u : Section σ) (part : String) where
  {β : Type}
  [decidableEq : DecidableEq β]
  slot : Slot u β
  /-- What a value in a file states, if it has the right type. -/
  stated? : Tree → Option β
  /-- What the text of the setting's variable states, if it reads like the right type. -/
  spelled? : String → Option β
  reads_stated : ∀ tree b, stated? tree = some b → slot.decoder.tree tree = .ok b
  reads_spelled : ∀ s b, spelled? s = some b →
    slot.decoder.tree (variableValue (part ++ "." ++ slot.name) s) = .ok b

instance {σ : Type} {u : Section σ} {part : String} (setting : Setting u part) :
    DecidableEq setting.β :=
  setting.decidableEq

/-- A setting whose variable is no list. -/
def Setting.of {σ β : Type} [DecidableEq β] {u : Section σ} {part : String} (slot : Slot u β)
    (kind : Kind β) (same : slot.decoder = kind.decoder)
    (single : part ++ "." ++ slot.name ≠ listPath) : Setting u part where
  slot := slot
  stated? := kind.stated?
  spelled? := kind.spelled?
  reads_stated tree b stated := by
    rw [same]
    exact kind.reads_stated tree b stated
  reads_spelled s b spelled := by
    rw [same, variableValue_eq single]
    exact kind.reads_spelled s b spelled

/-- A section with all its settings. -/
structure Part where
  {σ : Type}
  inside : Section σ
  slot : Slot layout σ
  settings : List (Setting inside slot.name)
  decoder : slot.decoder = inside.decoder
  draft : slot.get standard = inside.draft
  defaulted : inside.Open
  names : inside.fields.map Field.name = settings.map (·.slot.name)
  ext : ∀ a b, (∀ setting ∈ settings, setting.slot.get a = setting.slot.get b) → a = b

namespace Part

def logging : Part where
  inside := LoggingSettings.layout
  slot := loggingSlot
  settings := [
    .of LoggingSettings.levelSlot .text rfl (by decide),
    .of LoggingSettings.formatSlot (.option "LogFormat" [("pretty", .pretty), ("json", .json)]) rfl
      (by decide)]
  decoder := rfl
  draft := rfl
  defaulted := by simp [Section.Open, LoggingSettings.layout, Field.of]
  names := rfl
  ext a b same := by
    simp only [List.forall_mem_cons] at same
    obtain ⟨first, second, -⟩ := same
    exact LoggingSettings.ext first second

def metrics : Part where
  inside := MetricsSettings.layout
  slot := metricsSlot
  settings := [
    .of MetricsSettings.enabledSlot .flag rfl (by decide),
    .of MetricsSettings.listenAddressSlot .address rfl (by decide)]
  decoder := rfl
  draft := rfl
  defaulted := by simp [Section.Open, MetricsSettings.layout, Field.of]
  names := rfl
  ext a b same := by
    simp only [List.forall_mem_cons] at same
    obtain ⟨first, second, -⟩ := same
    exact MetricsSettings.ext first second

def cache : Part where
  inside := CacheSettings.layout
  slot := cacheSlot
  settings := [
    .of CacheSettings.kindSlot
      (.option "CacheType" [("in_memory", .inMemory), ("inmemory", .inMemory),
        ("memory", .inMemory), ("redis", .redis)]) rfl (by decide),
    .of CacheSettings.serverUrlSlot (.optional .text) rfl (by decide),
    .of CacheSettings.keySpaceSlot (.optional .text) rfl (by decide),
    .of CacheSettings.maxCapacitySlot (.optional (.whole .unsigned rfl)) rfl (by decide)]
  decoder := rfl
  draft := rfl
  defaulted := by simp [Section.Open, CacheSettings.layout, Field.of]
  names := rfl
  ext a b same := by
    simp only [List.forall_mem_cons] at same
    obtain ⟨first, second, third, fourth, -⟩ := same
    exact CacheSettings.ext first second third fourth

def store : Part where
  inside := StoreSettings.layout
  slot := storeSlot
  settings := [
    .of StoreSettings.kindSlot
      (.option "StoreType" [("in_memory", .seeded), ("inmemory", .seeded), ("memory", .seeded),
        ("postgres", .database), ("postgresql", .database)]) rfl (by decide),
    .of StoreSettings.databaseUrlSlot (.optional .text) rfl (by decide),
    .of StoreSettings.maxConnectionsSlot .whole32 rfl (by decide),
    .of StoreSettings.seedsSlot (.list KeyStore.Seed.layout.decoder) rfl (by decide)]
  decoder := rfl
  draft := rfl
  defaulted := by simp [Section.Open, StoreSettings.layout, Field.of]
  names := rfl
  ext a b same := by
    simp only [List.forall_mem_cons] at same
    obtain ⟨first, second, third, fourth, -⟩ := same
    exact StoreSettings.ext first second third fourth

def rateLimit : Part where
  inside := RateLimitSettings.layout
  slot := rateLimitSlot
  settings := [
    .of RateLimitSettings.windowSecondsSlot (.whole .unsigned rfl) rfl (by decide),
    .of RateLimitSettings.maxUsagesSlot (.whole .count rfl) rfl (by decide),
    .of RateLimitSettings.stateLifetimeSecondsSlot (.whole .unsigned rfl) rfl (by decide),
    .of RateLimitSettings.recordingSlot
      (.option "UsageRecordingPolicy" [("strict", .strict), ("best_effort", .bestEffort)]) rfl
      (by decide)]
  decoder := rfl
  draft := rfl
  defaulted := by simp [Section.Open, RateLimitSettings.layout, Field.of]
  names := rfl
  ext a b same := by
    simp only [List.forall_mem_cons] at same
    obtain ⟨first, second, third, fourth, -⟩ := same
    exact RateLimitSettings.ext first second third fourth

def updater : Part where
  inside := UpdaterSettings.layout
  slot := updaterSlot
  settings := [
    .of UpdaterSettings.intervalSecondsSlot (.whole .unsigned rfl) rfl (by decide),
    .of UpdaterSettings.rateLifetimeSecondsSlot (.whole .unsigned rfl) rfl (by decide),
    { slot := UpdaterSettings.basesSlot
      stated? := (Kind.list .text).stated?
      spelled? := spelledList?
      reads_stated := (Kind.list .text).reads_stated
      reads_spelled := fun _ _ => tree_spelledList }]
  decoder := rfl
  draft := rfl
  defaulted := by simp [Section.Open, UpdaterSettings.layout, Field.of]
  names := rfl
  ext a b same := by
    simp only [List.forall_mem_cons] at same
    obtain ⟨first, second, third, -⟩ := same
    exact UpdaterSettings.ext first second third

def feed : Part where
  inside := FeedSettings.layout
  slot := feedSlot
  settings := [
    .of FeedSettings.baseUrlSlot .text rfl (by decide),
    .of FeedSettings.apiKeySlot .text rfl (by decide),
    .of FeedSettings.timeoutSecondsSlot (.whole .unsigned rfl) rfl (by decide)]
  decoder := rfl
  draft := rfl
  defaulted := by simp [Section.Open, FeedSettings.layout, Field.of]
  names := rfl
  ext a b same := by
    simp only [List.forall_mem_cons] at same
    obtain ⟨first, second, third, -⟩ := same
    exact FeedSettings.ext first second third

def quote : Part where
  inside := QuoteSettings.layout
  slot := quoteSlot
  settings := [.of QuoteSettings.timeoutSecondsSlot (.whole .unsigned rfl) rfl (by decide)]
  decoder := rfl
  draft := rfl
  defaulted := by simp [Section.Open, QuoteSettings.layout, Field.of]
  names := rfl
  ext a b same := by
    simp only [List.forall_mem_cons] at same
    obtain ⟨first, -⟩ := same
    exact QuoteSettings.ext first

end Part

def parts : List Part :=
  [.logging, .metrics, .cache, .store, .rateLimit, .updater, .feed, .quote]

theorem names_parts : layout.fields.map Field.name = parts.map (·.slot.name) := rfl

/-- The settings are all that there is. -/
theorem ext_of_parts {a b : Settings}
    (same : ∀ part ∈ parts, ∀ setting ∈ part.settings,
      setting.slot.get (part.slot.get a) = setting.slot.get (part.slot.get b)) : a = b := by
  simp only [parts, List.forall_mem_cons] at same
  obtain ⟨logging, metrics, cache, store, rateLimit, updater, feed, quote, -⟩ := same
  exact Settings.ext (Part.logging.ext _ _ logging) (Part.metrics.ext _ _ metrics)
    (Part.cache.ext _ _ cache) (Part.store.ext _ _ store) (Part.rateLimit.ext _ _ rateLimit)
    (Part.updater.ext _ _ updater) (Part.feed.ext _ _ feed) (Part.quote.ext _ _ quote)

end Settings

end QuoteGateway
