import QuoteGateway.Proofs.Settings.Slot
import QuoteGateway.Settings.Sections

/-!
# Text settings

The settings that are texts, each with its section and field, and what a tree with one of them more
is decoded to.
-/

namespace QuoteGateway

open Settings (Section Decoder Field Slot)

namespace Settings

def loggingSlot : Slot layout LoggingSettings where
  name := "logging"
  decoder := LoggingSettings.layout.decoder
  get := Settings.logging
  put logging settings := { settings with logging }

def cacheSlot : Slot layout CacheSettings where
  name := "cache"
  decoder := CacheSettings.layout.decoder
  get := Settings.cache
  put cache settings := { settings with cache }

def storeSlot : Slot layout StoreSettings where
  name := "store"
  decoder := StoreSettings.layout.decoder
  get := Settings.store
  put store settings := { settings with store }

def feedSlot : Slot layout FeedSettings where
  name := "fx_source"
  decoder := FeedSettings.layout.decoder
  get := Settings.feed
  put feed settings := { settings with feed }

end Settings

def LoggingSettings.levelSlot : Slot LoggingSettings.layout String where
  name := "level"
  decoder := .text
  get := LoggingSettings.level
  put level draft := { draft with level }

def CacheSettings.serverUrlSlot : Slot CacheSettings.layout (Option String) where
  name := "redis_url"
  decoder := .optional .text
  get := CacheSettings.serverUrl
  put serverUrl draft := { draft with serverUrl }

def CacheSettings.keySpaceSlot : Slot CacheSettings.layout (Option String) where
  name := "key_prefix"
  decoder := .optional .text
  get := CacheSettings.keySpace
  put keySpace draft := { draft with keySpace }

def StoreSettings.databaseUrlSlot : Slot StoreSettings.layout (Option String) where
  name := "database_url"
  decoder := .optional .text
  get := StoreSettings.databaseUrl
  put databaseUrl draft := { draft with databaseUrl }

def FeedSettings.baseUrlSlot : Slot FeedSettings.layout String where
  name := "base_url"
  decoder := .text
  get := FeedSettings.baseUrl
  put baseUrl draft := { draft with baseUrl }

def FeedSettings.apiKeySlot : Slot FeedSettings.layout String where
  name := "api_key"
  decoder := .text
  get := FeedSettings.apiKey
  put apiKey draft := { draft with apiKey }

namespace Settings

/-- The settings that are texts. -/
inductive TextSetting where
  | level
  | serverUrl
  | keySpace
  | databaseUrl
  | baseUrl
  | apiKey
deriving DecidableEq

namespace TextSetting

def part : TextSetting → String
  | level => "logging"
  | serverUrl => "cache"
  | keySpace => "cache"
  | databaseUrl => "store"
  | baseUrl => "fx_source"
  | apiKey => "fx_source"

def field : TextSetting → String
  | level => "level"
  | serverUrl => "redis_url"
  | keySpace => "key_prefix"
  | databaseUrl => "database_url"
  | baseUrl => "base_url"
  | apiKey => "api_key"

def variableName : TextSetting → String
  | level => "APP__LOGGING__LEVEL"
  | serverUrl => "APP__CACHE__REDIS_URL"
  | keySpace => "APP__CACHE__KEY_PREFIX"
  | databaseUrl => "APP__STORE__DATABASE_URL"
  | baseUrl => "APP__FX_SOURCE__BASE_URL"
  | apiKey => "APP__FX_SOURCE__API_KEY"

/-- The text of the setting, where it is set. -/
def get (settings : Settings) : TextSetting → Option String
  | level => some settings.logging.level
  | serverUrl => settings.cache.serverUrl
  | keySpace => settings.cache.keySpace
  | databaseUrl => settings.store.databaseUrl
  | baseUrl => some settings.feed.baseUrl
  | apiKey => some settings.feed.apiKey

def put (s : String) (settings : Settings) : TextSetting → Settings
  | level => { settings with logging := { settings.logging with level := s } }
  | serverUrl => { settings with cache := { settings.cache with serverUrl := some s } }
  | keySpace => { settings with cache := { settings.cache with keySpace := some s } }
  | databaseUrl => { settings with store := { settings.store with databaseUrl := some s } }
  | baseUrl => { settings with feed := { settings.feed with baseUrl := s } }
  | apiKey => { settings with feed := { settings.feed with apiKey := s } }

theorem get_put (setting : TextSetting) (s : String) (settings : Settings) :
    setting.get (setting.put s settings) = some s := by
  cases setting <;> rfl

end TextSetting

theorem asText_optional {origin : Option String} {leaf : Leaf} (some : leaf ≠ .null) {s : String}
    (text : (Tree.leaf origin leaf).asText = .ok s) :
    (Decoder.optional .text).tree (.leaf origin leaf) = .ok (.some s) := by
  cases leaf with
  | null => exact absurd rfl some
  | flag b => exact congrArg (Except.map Option.some) text
  | integer i => exact congrArg (Except.map Option.some) text
  | real x => exact congrArg (Except.map Option.some) text
  | text t => exact congrArg (Except.map Option.some) text

/-- A tree with one text setting more is decoded to the same settings with this text. -/
theorem TextSetting.ofTree_of_beside (setting : TextSetting) {origin : Option String} {leaf : Leaf}
    (some : leaf ≠ .null) {s : String} (text : (Tree.leaf origin leaf).asText = .ok s)
    {tree tree' : Tree}
    (beside : Beside setting.part setting.field (.some (.leaf origin leaf)) tree tree')
    {settings : Settings} (decoded : ofTree tree = .ok settings) :
    ofTree tree' = .ok (setting.put s settings) := by
  have defaulted : layout.Open := by simp [Section.Open, layout, Field.of]
  have logging : LoggingSettings.layout.Open := by
    simp [Section.Open, LoggingSettings.layout, Field.of]
  have cache : CacheSettings.layout.Open := by
    simp [Section.Open, CacheSettings.layout, Field.of]
  have store : StoreSettings.layout.Open := by
    simp [Section.Open, StoreSettings.layout, Field.of]
  have feed : FeedSettings.layout.Open := by
    simp [Section.Open, FeedSettings.layout, Field.of]
  cases setting with
  | level =>
    exact loggingSlot.tree_of_beside LoggingSettings.levelSlot defaulted logging rfl rfl beside text
      decoded
  | serverUrl =>
    exact cacheSlot.tree_of_beside CacheSettings.serverUrlSlot defaulted cache rfl rfl beside
      (asText_optional some text) decoded
  | keySpace =>
    exact cacheSlot.tree_of_beside CacheSettings.keySpaceSlot defaulted cache rfl rfl beside
      (asText_optional some text) decoded
  | databaseUrl =>
    exact storeSlot.tree_of_beside StoreSettings.databaseUrlSlot defaulted store rfl rfl beside
      (asText_optional some text) decoded
  | baseUrl =>
    exact feedSlot.tree_of_beside FeedSettings.baseUrlSlot defaulted feed rfl rfl beside text
      decoded
  | apiKey =>
    exact feedSlot.tree_of_beside FeedSettings.apiKeySlot defaulted feed rfl rfl beside text
      decoded

end Settings

end QuoteGateway
