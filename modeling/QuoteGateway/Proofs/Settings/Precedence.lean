import QuoteGateway.Proofs.Settings.Definitions
import QuoteGateway.Proofs.Settings.Inventory

/-!
# Precedence of layers

Every setting has the value that the highest layer gives to it: the environment before the local
file, and the local file before the default one. A setting that no layer defines has its default.
What a layer says about one setting never changes another.
-/

namespace QuoteGateway.Settings

namespace Setting

section

variable {σ : Type} {u : Section σ} {part : String} (setting : Setting u part)

/-- The path of the setting. -/
def path : String := part ++ "." ++ setting.slot.name

def variableName : String := "app__" ++ part ++ "__" ++ setting.slot.name

/-- The value that a layer gives to the setting. -/
def definition? (layer : List (String × Tree)) : Option Tree :=
  (layer.flatMap (definitions part setting.slot.name)).head?

/-- A layer gives the setting a single value at most, and one that can be decoded. -/
structure Orderly (layer : List (String × Tree)) : Prop where
  gives : GivesOnce part setting.slot.name layer
  legible : ∀ tree ∈ setting.definition? layer,
    (setting.slot.decoder.tree tree).toOption.isSome = true

instance (layer : List (String × Tree)) : Decidable (setting.Orderly layer) :=
  decidable_of_iff
    (GivesOnce part setting.slot.name layer ∧ ∀ tree ∈ setting.definition? layer,
      (setting.slot.decoder.tree tree).toOption.isSome = true)
    ⟨fun ⟨gives, legible⟩ => ⟨gives, legible⟩, fun orderly => ⟨orderly.gives, orderly.legible⟩⟩

/-- A section holds what a value of the setting is decoded to, which is what it states if it has the
right type. Without a value it holds the default. -/
def Takes (a : σ) : Option Tree → Prop
  | none => setting.slot.get a = setting.slot.get u.draft
  | some tree => setting.slot.decoder.tree tree = .ok (setting.slot.get a) ∧
      ∀ b, setting.stated? tree = some b → setting.slot.get a = b

theorem takes_of_reads {a : σ} {tree : Tree}
    (reads : setting.slot.decoder.tree tree = .ok (setting.slot.get a)) :
    setting.Takes a (some tree) := by
  refine ⟨reads, ?_⟩
  intro b stated
  exact Except.ok.inj (reads.symm.trans (setting.reads_stated tree b stated))

theorem Takes.get_eq {setting : Setting u part} {a b : σ} {value : Option Tree}
    (takes : setting.Takes a value) (takes' : setting.Takes b value) :
    setting.slot.get a = setting.slot.get b := by
  cases value with
  | none => exact Eq.trans takes (Eq.symm takes')
  | some tree => exact Except.ok.inj (takes.1.symm.trans takes'.1)

theorem Takes.get_of_silent {setting : Setting u part} {a : σ} {value : Option Tree}
    (takes : setting.Takes a value) (silent : value.isNone = true) :
    setting.slot.get a = setting.slot.get u.draft := by
  cases value with
  | none => exact takes
  | some tree => cases silent

theorem Takes.get_of_stated {setting : Setting u part} {a : σ} {value : Option Tree}
    (takes : setting.Takes a value) {b : setting.β} (stated : value.bind setting.stated? = some b) :
    setting.slot.get a = b := by
  obtain ⟨tree, rfl, states⟩ := Option.bind_eq_some_iff.mp stated
  exact takes.2 b states

/-- The setting can be any whole number of 64 bits. -/
structure Wide (wrap : UInt64 → setting.β) : Prop where
  injective : Function.Injective wrap
  reads : ∀ tree n, tree.asUnsigned = .ok n → setting.slot.decoder.tree tree = .ok (wrap n)

theorem wide_of_whole {slot : Slot u UInt64} {decoder : Decoder UInt64}
    (unsigned : decoder.tree = Tree.asUnsigned) (same : slot.decoder = decoder)
    (single : part ++ "." ++ slot.name ≠ listPath) :
    (Setting.of slot (.whole decoder unsigned) same single : Setting u part).Wide id where
  injective := Function.injective_id
  reads tree n read := by
    change slot.decoder.tree tree = .ok n
    rw [same, unsigned, read]

theorem Takes.get_eq_iff {setting : Setting u part} {wrap : UInt64 → setting.β}
    (wide : setting.Wide wrap) {a : σ} {origin : String} {n : UInt64}
    (takes : setting.Takes a (some (treeOf origin (.ofNumeral (.natural n.toNat))))) :
    setting.slot.get a = wrap n ↔ Survives n := by
  obtain ⟨m, read, same⟩ := asUnsigned_ofNumeral origin n
  rw [Except.ok.inj (takes.1.symm.trans (wide.reads _ m read)), wide.injective.eq_iff, same]

end

end Setting

theorem paths : ∀ part ∈ parts, ∀ setting ∈ part.settings,
    pathOf setting.path = (.member part.slot.name, [.member setting.slot.name]) ∧
      Text.lowercase setting.slot.name = setting.slot.name := by
  decide +kernel

theorem variableNames : ∀ part ∈ parts, ∀ setting ∈ part.settings,
    environmentStart.isPrefixOf setting.variableName.toList = true ∧
      String.ofList (pointed (setting.variableName.toList.drop environmentStart.length)) =
        setting.path := by
  decide +kernel

theorem exists_setting : ∀ part ∈ parts, ∃ setting, setting ∈ part.settings := by
  simp only [parts, List.forall_mem_cons]
  refine ⟨?_, ?_, ?_, ?_, ?_, ?_, ?_, ?_, nofun⟩
  all_goals exact ⟨_, List.mem_cons_self⟩

section

variable {part : Part} (member : part ∈ parts) {setting : Setting part.inside part.slot.name}
  (among : setting ∈ part.settings)
include member among

theorem variablePath?_of_lowercase {name : String}
    (named : Text.lowercase name = setting.variableName) :
    variablePath? name = some setting.path := by
  obtain ⟨starts, path⟩ := variableNames part member setting among
  simp only [variablePath?, named, if_pos starts, path]

/-- A value at the path of a setting is given to this one and to no other. -/
theorem definitions_path {other : Part} (member' : other ∈ parts)
    {setting' : Setting other.inside other.slot.name} (among' : setting' ∈ other.settings)
    (value : Tree) :
    definitions part.slot.name setting.slot.name (setting'.path, value) =
      if setting'.path = setting.path then [value] else [] := by
  obtain ⟨path, small⟩ := paths part member setting among
  obtain ⟨path', small'⟩ := paths other member' setting' among'
  have same : setting'.path = setting.path ↔
      other.slot.name = part.slot.name ∧ Text.lowercase setting'.slot.name = setting.slot.name := by
    constructor
    · intro same
      rw [same, path] at path'
      simp only [Prod.mk.injEq, Step.member.injEq, List.cons.injEq, and_true] at path'
      exact ⟨path'.1.symm, small'.trans path'.2.symm⟩
    · rintro ⟨outer, inner⟩
      rw [small'] at inner
      simp only [Setting.path, outer, inner]
  simp only [definitions, path', same]

end

section Part

variable {part : Part} {t : Tree}

theorem Part.exists_ok (isTable : t.IsTable) (nodup : t.asTable.keys.Nodup)
    (legible : ∀ setting ∈ part.settings, ∀ tree ∈ t.asTable.get? setting.slot.name,
      (setting.slot.decoder.tree tree).toOption.isSome = true) :
    ∃ a, part.inside.decoder.tree t = .ok a := by
  rw [part.inside.tree_of_isTable part.defaulted isTable]
  apply Section.applyMembers_ok
  rintro ⟨name, tree⟩ member field found
  obtain rfl : field.name = name := by simpa using List.find?_some found
  have named : field.name ∈ part.settings.map (·.slot.name) := by
    rw [← part.names]
    exact List.mem_map_of_mem (List.mem_of_find?_eq_some found)
  obtain ⟨setting, among, same⟩ := List.mem_map.mp named
  rw [← same] at found member
  obtain rfl := Option.some.inj (setting.slot.find.symm.trans found)
  obtain ⟨b, decoded⟩ := Option.isSome_iff_exists.mp
    (legible setting among tree (Table.get?_of_mem nodup member))
  refine ⟨setting.slot.put b, ?_⟩
  simp only [Field.of, Decoder.map, ok_of_toOption decoded, Except.map]

theorem Part.takes (isTable : t.IsTable) (nodup : t.asTable.keys.Nodup) {a : part.σ}
    (decoded : part.inside.decoder.tree t = .ok a) (setting : Setting part.inside part.slot.name) :
    setting.Takes a (t.asTable.get? setting.slot.name) := by
  rw [part.inside.tree_of_isTable part.defaulted isTable] at decoded
  cases held : t.asTable.get? setting.slot.name with
  | none => exact setting.slot.get_of_missing nodup held decoded
  | some tree => exact setting.takes_of_reads (setting.slot.reads_get nodup held decoded)

def Part.within (part : Part) (tree : Tree) : Tree :=
  (tree.asTable.get? part.slot.name).getD .emptyTable

theorem Part.reads_get {tree : Tree} (nodup : tree.asTable.keys.Nodup) {settings : Settings}
    (applied : layout.applyMembers tree.asTable.rows standard = .ok settings) :
    part.inside.decoder.tree (part.within tree) = .ok (part.slot.get settings) := by
  unfold Part.within
  cases held : tree.asTable.get? part.slot.name with
  | none =>
    have empty : Tree.emptyTable.IsTable := trivial
    rw [part.slot.get_of_missing nodup held applied, part.draft, Option.getD_none,
      part.inside.tree_of_isTable part.defaulted empty]
    rfl
  | some t =>
    rw [Option.getD_some, ← part.decoder]
    exact part.slot.reads_get nodup held applied

end Part

/-- A tree that holds something legible for every setting is decoded, and each setting takes what
the tree holds for it. -/
theorem ofTree_of_holds {tree : Tree}
    {value : (part : Part) → Setting part.inside part.slot.name → Option Tree}
    (holds : ∀ part ∈ parts, ∀ setting ∈ part.settings,
      Holds part.slot.name setting.slot.name (value part setting) tree)
    (legible : ∀ part ∈ parts, ∀ setting ∈ part.settings, ∀ held ∈ value part setting,
      (setting.slot.decoder.tree held).toOption.isSome = true) :
    ∃ settings, ofTree tree = .ok settings ∧ ∀ part ∈ parts, ∀ setting ∈ part.settings,
      setting.Takes (part.slot.get settings) (value part setting) := by
  have defaulted : layout.Open := by simp [Section.Open, layout, Field.of]
  have whole : tree.IsTable ∧ tree.asTable.keys.Nodup := by
    obtain ⟨setting, among⟩ := exists_setting .logging (by simp [parts])
    have held := holds .logging (by simp [parts]) setting among
    exact ⟨held.isTable, held.differ.nodup⟩
  have sections : ∀ part ∈ parts, (part.within tree).IsTable ∧
      (part.within tree).asTable.keys.Nodup ∧ ∀ setting ∈ part.settings,
        (part.within tree).asTable.get? setting.slot.name = value part setting := by
    intro part member
    obtain ⟨setting, among⟩ := exists_setting part member
    have held := (holds part member setting among).differ.related
    exact ⟨held.isTable, held.differ.nodup,
      fun other inside => (holds part member other inside).differ.related.differ.related⟩
  obtain ⟨settings, applied⟩ : ∃ settings,
      layout.applyMembers tree.asTable.rows standard = .ok settings := by
    apply Section.applyMembers_ok
    rintro ⟨name, t⟩ member field found
    obtain rfl : field.name = name := by simpa using List.find?_some found
    have named : field.name ∈ parts.map (·.slot.name) := by
      rw [← names_parts]
      exact List.mem_map_of_mem (List.mem_of_find?_eq_some found)
    obtain ⟨part, among, same⟩ := List.mem_map.mp named
    rw [← same] at found member
    obtain rfl := Option.some.inj (part.slot.find.symm.trans found)
    obtain ⟨isTable, nodup, held⟩ := sections part among
    obtain ⟨a, decoded⟩ := Part.exists_ok isTable nodup fun setting inside t same =>
      legible part among setting inside t (held setting inside ▸ same)
    rw [Part.within, Table.get?_of_mem whole.2 member, Option.getD_some, ← part.decoder] at decoded
    refine ⟨part.slot.put a, ?_⟩
    simp only [Field.of, Decoder.map, decoded, Except.map]
  refine ⟨settings, (layout.tree_of_isTable defaulted whole.1).trans applied, ?_⟩
  intro part member setting among
  obtain ⟨isTable, nodup, held⟩ := sections part member
  rw [← held setting among]
  exact Part.takes isTable nodup (Part.reads_get whole.2 applied) setting

def layerOf (files : String → Option String) (name : String) : List (String × Tree) :=
  (namedLayer files name).toOption.getD []

/-- Files that can be read or are missing, and an environment. Each of them gives a setting one
value at most, which can be decoded, and otherwise leaves the setting alone. -/
structure Sources where
  files : String → Option String
  environment : List (String × String)
  readable : ∀ name ∈ fileNames, (namedLayer files name).toOption.isSome = true
  orderly : ∀ part ∈ parts, ∀ setting ∈ part.settings,
    (∀ name ∈ fileNames, setting.Orderly (layerOf files name)) ∧
      setting.Orderly (environmentLayer environment)

namespace Sources

variable (sources : Sources)

/-- The value that the highest layer gives to a setting. -/
def highest? {part : Part} (setting : Setting part.inside part.slot.name) : Option Tree :=
  (setting.definition? (environmentLayer sources.environment)).or
    ((setting.definition? (layerOf sources.files "config/local")).or
      (setting.definition? (layerOf sources.files "config/default")))

/-- The tree of all layers. -/
def tree : Tree :=
  overlayLayer (environmentLayer sources.environment)
    (overlayLayer (layerOf sources.files "config/local")
      (overlayLayer (layerOf sources.files "config/default") .emptyTable))

theorem load_eq_ok_iff {settings : Settings} :
    load sources.files sources.environment = .ok settings ↔ ofTree sources.tree = .ok settings := by
  have reads : ∀ name ∈ fileNames,
      namedLayer sources.files name = .ok (layerOf sources.files name) := by
    intro name member
    obtain ⟨layer, read⟩ := Option.isSome_iff_exists.mp (sources.readable name member)
    rw [layerOf, read, Option.getD_some]
    exact ok_of_toOption read
  have layers : fileNames.mapM (namedLayer sources.files) =
      .ok [layerOf sources.files "config/default", layerOf sources.files "config/local"] := by
    simp only [fileNames, List.mapM_cons, List.mapM_nil, reads "config/default" (by decide),
      reads "config/local" (by decide)]
    rfl
  rw [Settings.load_eq_ok_iff]
  constructor
  · rintro ⟨_, read, decoded⟩
    obtain rfl := Except.ok.inj (layers.symm.trans read)
    exact decoded
  · intro decoded
    exact ⟨_, layers, decoded⟩

variable {sources} {part : Part} (member : part ∈ parts)
  {setting : Setting part.inside part.slot.name} (among : setting ∈ part.settings)
include member among

theorem holds : Holds part.slot.name setting.slot.name (sources.highest? setting) sources.tree := by
  obtain ⟨ofFiles, ofEnvironment⟩ := sources.orderly part member setting among
  have first := (holds_empty part.slot.name setting.slot.name).overlayLayer
    (ofFiles "config/default" (by decide)).gives
  rw [Option.or_none] at first
  exact (first.overlayLayer (ofFiles "config/local" (by decide)).gives).overlayLayer
    ofEnvironment.gives

theorem legible : ∀ tree ∈ sources.highest? setting,
    (setting.slot.decoder.tree tree).toOption.isSome = true := by
  obtain ⟨ofFiles, ofEnvironment⟩ := sources.orderly part member setting among
  intro tree held
  rcases Option.or_eq_some_iff.mp held with here | ⟨-, lower⟩
  · exact ofEnvironment.legible tree here
  rcases Option.or_eq_some_iff.mp lower with here | ⟨-, lowest⟩
  · exact (ofFiles "config/local" (by decide)).legible tree here
  · exact (ofFiles "config/default" (by decide)).legible tree lowest

/-- The variable of a setting is what the environment gives to it. -/
theorem highest?_of_variable {row : String × String} (here : row ∈ sources.environment)
    (named : variablePath? row.1 = some setting.path) :
    sources.highest? setting = some (variableValue setting.path row.2) := by
  have entry : (setting.path, variableValue setting.path row.2) ∈
      environmentLayer sources.environment :=
    List.mem_filterMap.mpr ⟨row, here, congrArg (Option.map _) named⟩
  have given : variableValue setting.path row.2 ∈ (environmentLayer sources.environment).flatMap
      (definitions part.slot.name setting.slot.name) := by
    refine List.mem_flatMap.mpr ⟨_, entry, ?_⟩
    rw [definitions_path member among member among, if_pos rfl]
    exact List.mem_singleton_self _
  have once := (sources.orderly part member setting among).2.gives.once
  have first : setting.definition? (environmentLayer sources.environment) =
      some (variableValue setting.path row.2) := by
    unfold Setting.definition?
    generalize (environmentLayer sources.environment).flatMap
      (definitions part.slot.name setting.slot.name) = values at *
    match values, given, once with
    | [_], .head _, _ => rfl
  rw [highest?, first, Option.some_or]

end Sources

theorem Sources.exists_takes (sources : Sources) :
    ∃ settings, load sources.files sources.environment = .ok settings ∧
      ∀ part ∈ parts, ∀ setting ∈ part.settings,
        setting.Takes (part.slot.get settings) (sources.highest? setting) := by
  have held : ∀ part ∈ parts, ∀ setting ∈ part.settings,
      Holds part.slot.name setting.slot.name (sources.highest? setting) sources.tree :=
    fun part member setting among => holds member among
  obtain ⟨settings, decoded, takes⟩ := ofTree_of_holds held
    fun part member setting among => legible member among
  exact ⟨settings, sources.load_eq_ok_iff.mpr decoded, takes⟩

/-- A setting of which the highest value is the same is loaded the same. -/
theorem Sources.get_of_highest?_eq {sources other : Sources} {settings settings' : Settings}
    (loaded : load sources.files sources.environment = .ok settings)
    (loaded' : load other.files other.environment = .ok settings') {part : Part}
    (member : part ∈ parts) {setting : Setting part.inside part.slot.name}
    (among : setting ∈ part.settings) (same : sources.highest? setting = other.highest? setting) :
    setting.slot.get (part.slot.get settings) = setting.slot.get (part.slot.get settings') := by
  obtain ⟨_, loads, takes⟩ := sources.exists_takes
  obtain ⟨_, loads', takes'⟩ := other.exists_takes
  obtain rfl := Except.ok.inj (loads.symm.trans loaded)
  obtain rfl := Except.ok.inj (loads'.symm.trans loaded')
  have taken := takes part member setting among
  rw [same] at taken
  exact taken.get_eq (takes' part member setting among)

/-- Loading succeeds, and every setting is what the highest layer states for it, in a file or in the
setting's variable, or else its default. A whole number of 64 bits in JSON text arrives exactly if
it survives. Other sources with the same highest value for one setting load the same for it,
whatever they state for the others. -/
theorem load_highest (sources : Sources) :
    ∃ settings, load sources.files sources.environment = .ok settings ∧
      (∀ part ∈ parts, ∀ setting ∈ part.settings,
        setting.Takes (part.slot.get settings) (sources.highest? setting) ∧
        ∀ row ∈ sources.environment, Text.lowercase row.1 = setting.variableName →
          ∀ b, setting.spelled? row.2 = some b → setting.slot.get (part.slot.get settings) = b) ∧
      (∀ part ∈ parts, ∀ setting ∈ part.settings, ∀ wrap, setting.Wide wrap → ∀ origin n,
        sources.highest? setting = some (treeOf origin (.ofNumeral (.natural n.toNat))) →
          (setting.slot.get (part.slot.get settings) = wrap n ↔ Survives n)) ∧
      ∀ (other : Sources) (settings' : Settings),
        load other.files other.environment = .ok settings' →
        ∀ part ∈ parts, ∀ setting ∈ part.settings,
          sources.highest? setting = other.highest? setting →
          setting.slot.get (part.slot.get settings) =
            setting.slot.get (part.slot.get settings') := by
  obtain ⟨settings, loaded, takes⟩ := sources.exists_takes
  refine ⟨settings, loaded, ?_, ?_, ?_⟩
  · intro part member setting among
    refine ⟨takes part member setting among, ?_⟩
    intro row here named b spelled
    have taken := takes part member setting among
    rw [Sources.highest?_of_variable member among here
      (variablePath?_of_lowercase member among named)] at taken
    exact Except.ok.inj (taken.1.symm.trans (setting.reads_spelled row.2 b spelled))
  · intro part member setting among wrap wide origin n held
    exact (held ▸ takes part member setting among).get_eq_iff wide
  · intro other settings' loaded' part member setting among same
    exact Sources.get_of_highest?_eq loaded loaded' member among same

theorem load_congr {sources other : Sources}
    (agree : ∀ part ∈ parts, ∀ setting ∈ part.settings,
      sources.highest? setting = other.highest? setting) :
    load sources.files sources.environment = load other.files other.environment := by
  obtain ⟨settings, loaded, -⟩ := sources.exists_takes
  obtain ⟨settings', loaded', -⟩ := other.exists_takes
  have same : settings = settings' := by
    apply ext_of_parts
    intro part member setting among
    exact Sources.get_of_highest?_eq loaded loaded' member among (agree part member setting among)
  rw [loaded, loaded', same]

def mixedFiles (name : String) : Option String :=
  if name = "config/default.toml" then
    some ("[rate_limit]\nwindow_secs = 30\nmax_usages = 5\n" ++
      "[updater]\nbase_currencies = [\"USD\", \"EUR\"]\n")
  else if name = "config/local.json" then
    some ("\x7b\"Rate_Limit\": \x7b\"window_secs\": 45, \"usage_recording\": \"BEST_EFFORT\"" ++
      "\x7d, \"updater\": \x7b\"base_currencies\": [\"CHF\"]\x7d, \"comment\": 1\x7d")
  else none

/-- The files with variables in letters of either case. -/
def mixed : Sources where
  files := mixedFiles
  environment := [("PATH", "/bin"), ("App__Rate_Limit__MAX_USAGES", "7"),
    ("APP__FX_SOURCE__API_KEY", "123")]
  readable := by decide +kernel
  orderly := by decide +kernel

/-- A window that is a whole number of 64 bits, but not of 63. -/
def vastText : String :=
  "\x7b\"rate_limit\": \x7b\"window_secs\": 9223372036854775809\x7d\x7d"

def vast : Sources where
  files name := if name = "config/default.json" then some vastText else none
  environment := []
  readable := by decide +kernel
  orderly := by decide +kernel

def Tree.leaf? : Tree → Option (Option String × Leaf)
  | .leaf origin value => some (origin, value)
  | _ => none

theorem Tree.eq_of_leaf? {tree : Tree} {origin : Option String} {value : Leaf}
    (h : tree.leaf? = some (origin, value)) : tree = .leaf origin value := by
  cases tree with
  | leaf origin value => cases h; rfl
  | list origin items => cases h
  | table origin members => cases h

theorem highest?_vast : ∀ window ∈ Part.rateLimit.settings.head?, vast.highest? window =
    some (treeOf "config/default.json" (.ofNumeral (.natural 9223372036854775809))) := by
  have stated : ∀ window ∈ Part.rateLimit.settings.head?, (vast.highest? window).bind Tree.leaf? =
      some (some "config/default.json", .real (.ofNat 9223372036854775809)) := by decide +kernel
  intro window first
  obtain ⟨tree, held, leaf⟩ := Option.bind_eq_some_iff.mp (stated window first)
  rw [held, Tree.eq_of_leaf? leaf]
  rfl

/-- The local file wins over the default one and the variables win over both, while what nobody sets
keeps its default, which is the same with other sources that do not set it. -/
theorem load_highest_mixed :
    ∃ settings other, load mixed.files mixed.environment = .ok settings ∧
      load vast.files vast.environment = .ok other ∧
      settings.rateLimit = ⟨45, 7, 600, .bestEffort⟩ ∧ settings.updater.bases = ["CHF"] ∧
      settings.feed.apiKey = "123" ∧ other.rateLimit.stateLifetimeSeconds = 600 ∧
      other.rateLimit.windowSeconds ≠ 9223372036854775809 := by
  obtain ⟨settings, loaded, takes, -, alike⟩ := load_highest mixed
  obtain ⟨other, loaded', -, survives, -⟩ := load_highest vast
  obtain ⟨seconds, limits⟩ := List.forall_mem_cons.mp (takes .rateLimit (by simp [parts]))
  obtain ⟨usages, limits⟩ := List.forall_mem_cons.mp limits
  obtain ⟨lifetime, limits⟩ := List.forall_mem_cons.mp limits
  obtain ⟨recording, -⟩ := List.forall_mem_cons.mp limits
  obtain ⟨-, plan⟩ := List.forall_mem_cons.mp (takes .updater (by simp [parts]))
  obtain ⟨-, plan⟩ := List.forall_mem_cons.mp plan
  obtain ⟨bases, -⟩ := List.forall_mem_cons.mp plan
  obtain ⟨-, feed⟩ := List.forall_mem_cons.mp (takes .feed (by simp [parts]))
  obtain ⟨key, -⟩ := List.forall_mem_cons.mp feed
  have seconds : settings.rateLimit.windowSeconds = 45 :=
    seconds.1.get_of_stated (by decide +kernel)
  have usages : settings.rateLimit.maxUsages = 7 :=
    usages.2 ("App__Rate_Limit__MAX_USAGES", "7") (by decide) (by decide +kernel) _
      (by decide +kernel)
  have lifetime : settings.rateLimit.stateLifetimeSeconds = 600 :=
    lifetime.1.get_of_silent (by decide +kernel)
  have recording : settings.rateLimit.recording = .bestEffort :=
    recording.1.get_of_stated (by decide +kernel)
  have bases : settings.updater.bases = ["CHF"] := bases.1.get_of_stated (by decide +kernel)
  have key : settings.feed.apiKey = "123" :=
    key.2 ("APP__FX_SOURCE__API_KEY", "123") (by decide) (by decide +kernel) _ (by decide +kernel)
  have lifetime' : other.rateLimit.stateLifetimeSeconds = 600 :=
    (alike vast other loaded' .rateLimit (by simp [parts]) _
      (List.mem_cons_of_mem _ (List.mem_cons_of_mem _ List.mem_cons_self))
      ((Option.isNone_iff_eq_none.mp (by decide +kernel)).trans
        (Option.isNone_iff_eq_none.mp (by decide +kernel)).symm)).symm.trans lifetime
  have seconds' : other.rateLimit.windowSeconds ≠ 9223372036854775809 := by
    intro arrives
    have fits := (survives .rateLimit (by simp [parts]) _ List.mem_cons_self id
      (Setting.wide_of_whole rfl rfl _) "config/default.json" 9223372036854775809
      (highest?_vast _ rfl)).mp arrives
    exact absurd fits (by decide)
  exact ⟨settings, other, loaded, loaded',
    RateLimitSettings.ext seconds usages lifetime recording, bases, key, lifetime', seconds'⟩

/-- The layers do not keep the window, which their only file states. The text of the file alone is
read as it is. -/
theorem load_ne_read :
    ((load vast.files vast.environment).toOption.map (·.rateLimit.windowSeconds) =
        some 9223372036854775808) ∧
      (read vastText).toOption.map (·.rateLimit.windowSeconds) = some 9223372036854775809 := by
  decide +kernel

end QuoteGateway.Settings
