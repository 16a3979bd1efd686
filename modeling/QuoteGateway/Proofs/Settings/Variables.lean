import QuoteGateway.Proofs.Settings.TextSetting
import QuoteGateway.Proofs.Traversal
import QuoteGateway.Settings.Load

/-!
# Text settings from the environment

A variable of the environment has no type. Its text is taken for a truth value or a number where it
reads like one, and a setting that asks for a text gets the text of that value. It arrives as it is
exactly if it is spelled the way such values are written; no other setting notices the variable.
-/

namespace QuoteGateway

namespace Settings

/-- The value that the text of a variable is taken for. -/
def guessed (s : String) : Leaf :=
  if Text.lowercase s = "true" then .flag true
  else if Text.lowercase s = "false" then .flag false
  else match Text.signed64? s.toList, Number.literal? s.toList with
    | some i, _ => .integer i.toInt
    | none, some x => .real x
    | none, none => .text s

/-- The text that a text setting gets from a variable. -/
def respelled (s : String) : String :=
  match guessed s with
  | .flag b => toString b
  | .integer i => String.ofList (Text.integerNumeral i)
  | .real x => String.ofList (Number.Layout.plain.write x)
  | _ => s

/-- A text that is no spelling of a truth value or a number but the one in which it is written. -/
structure Verbatim (s : String) : Prop where
  flag : ∀ b : Bool, Text.lowercase s = toString b → s = toString b
  integer : ∀ i, Text.signed64? s.toList = some i → s.toList = Text.integerNumeral i.toInt
  real : Text.signed64? s.toList = none → ∀ x, Number.literal? s.toList = some x →
    s.toList = Number.Layout.plain.write x

theorem guessed_cases (s : String) :
    (∃ b : Bool, Text.lowercase s = toString b ∧ guessed s = .flag b) ∨
    (∀ b : Bool, Text.lowercase s ≠ toString b) ∧
      ((∃ i, Text.signed64? s.toList = some i ∧ guessed s = .integer i.toInt) ∨
        Text.signed64? s.toList = none ∧
          ((∃ x, Number.literal? s.toList = some x ∧ guessed s = .real x) ∨
            Number.literal? s.toList = none ∧ guessed s = .text s)) := by
  unfold guessed
  by_cases yes : Text.lowercase s = "true"
  · exact .inl ⟨true, yes, if_pos yes⟩
  by_cases no : Text.lowercase s = "false"
  · exact .inl ⟨false, no, by rw [if_neg yes, if_pos no]⟩
  refine .inr ⟨fun b => by cases b <;> assumption, ?_⟩
  simp only [yes, no, if_false]
  cases Text.signed64? s.toList with
  | some i => exact .inl ⟨i, rfl, rfl⟩
  | none =>
    refine .inr ⟨rfl, ?_⟩
    cases Number.literal? s.toList with
    | some x => exact .inl ⟨x, rfl, rfl⟩
    | none => exact .inr ⟨rfl, rfl⟩

theorem variableValue_eq {path : String} (h : path ≠ listPath) (s : String) :
    variableValue path s = .leaf (some environmentOrigin) (guessed s) := by
  simp only [variableValue, guessed, if_neg h]
  by_cases yes : Text.lowercase s = "true"
  · simp only [yes, if_true]
  by_cases no : Text.lowercase s = "false"
  · simp [no]
  simp only [yes, no, if_false]
  cases Text.signed64? s.toList with
  | some i => rfl
  | none => cases Number.literal? s.toList <;> rfl

theorem guessed_ne_null (s : String) : guessed s ≠ .null := by
  obtain ⟨b, -, guess⟩ | ⟨-, ⟨i, -, guess⟩ | ⟨-, ⟨x, -, guess⟩ | ⟨-, guess⟩⟩⟩ := guessed_cases s
  all_goals
    rw [guess]
    nofun

theorem asText_guessed (origin : Option String) (s : String) :
    (Tree.leaf origin (guessed s)).asText = .ok (respelled s) := by
  unfold respelled
  obtain ⟨b, -, guess⟩ | ⟨-, ⟨i, -, guess⟩ | ⟨-, ⟨x, -, guess⟩ | ⟨-, guess⟩⟩⟩ := guessed_cases s
  all_goals
    rw [guess]
    rfl

/-- A text comes back as it is exactly if it is spelled the way its value is written. -/
theorem respelled_eq_self_iff (s : String) : respelled s = s ↔ Verbatim s := by
  have ofList_eq (cs : List Char) : String.ofList cs = s ↔ s.toList = cs := by
    rw [← String.toList_inj, String.toList_ofList, eq_comm]
  unfold respelled
  obtain ⟨b, flag, guess⟩ | ⟨noFlag, ⟨i, integer, guess⟩ | ⟨noInteger, ⟨x, real, guess⟩ |
    ⟨noReal, guess⟩⟩⟩ := guessed_cases s
  · rw [guess]
    constructor
    · intro same
      change toString b = s at same
      subst same
      have noInteger : Text.signed64? (toString b).toList = none := by cases b <;> decide
      have noReal : Number.literal? (toString b).toList = none := by cases b <;> decide
      exact ⟨fun _ same => flag.symm.trans same, fun _ same => (nomatch noInteger.symm.trans same),
        fun _ _ same => (nomatch noReal.symm.trans same)⟩
    · intro verbatim
      exact (verbatim.flag b flag).symm
  · rw [guess]
    simp only [ofList_eq]
    constructor
    · intro canonical
      refine ⟨fun b flag => absurd flag (noFlag b), fun j same => ?_,
        fun none => (nomatch none.symm.trans integer)⟩
      rw [integer] at same
      rw [← Option.some.inj same, canonical]
    · intro verbatim
      exact verbatim.integer i integer
  · rw [guess]
    simp only [ofList_eq]
    constructor
    · intro canonical
      refine ⟨fun b flag => absurd flag (noFlag b),
        fun _ same => (nomatch noInteger.symm.trans same), fun _ y same => ?_⟩
      rw [real] at same
      rw [← Option.some.inj same, canonical]
    · intro verbatim
      exact verbatim.real noInteger x real
  · rw [guess]
    exact ⟨fun _ => ⟨fun b flag => absurd flag (noFlag b),
      fun _ same => (nomatch noInteger.symm.trans same),
      fun _ _ same => (nomatch noReal.symm.trans same)⟩, fun _ => rfl⟩

theorem ok_of_toOption {ε α : Type} {x : Except ε α} {a : α} (h : x.toOption = some a) :
    x = .ok a := by
  cases x with
  | error e => cases h
  | ok b => rw [Option.some.inj h]

namespace TextSetting

variable (setting : TextSetting)

def path : String := setting.part ++ "." ++ setting.field

theorem variablePath?_variableName : variablePath? setting.variableName = some setting.path := by
  cases setting <;> decide +kernel

theorem pathOf_path : pathOf setting.path = (.member setting.part, [.member setting.field]) := by
  cases setting <;> decide +kernel

theorem path_ne_listPath : setting.path ≠ listPath := by
  cases setting <;> decide

theorem target_field : Tree.target setting.field [] = setting.field := by
  cases setting <;> decide +kernel

/-- No file and no variable is about the setting. -/
structure Unset (files : String → Option String) (environment : List (String × String)) : Prop where
  files : ∀ name ∈ fileNames, ∀ layer, namedLayer files name = .ok layer →
    ∀ entry ∈ layer, Apart setting.part setting.field entry
  environment : ∀ entry ∈ environmentLayer environment, Apart setting.part setting.field entry

instance (files : String → Option String) (environment : List (String × String)) :
    Decidable (setting.Unset files environment) :=
  decidable_of_iff
    ((∀ name ∈ fileNames, ∀ layer ∈ (namedLayer files name).toOption,
        ∀ entry ∈ layer, Apart setting.part setting.field entry) ∧
      ∀ entry ∈ environmentLayer environment, Apart setting.part setting.field entry)
    ⟨fun ⟨ofFiles, ofVariables⟩ =>
        ⟨fun name among layer same => ofFiles name among layer (by rw [same]; rfl), ofVariables⟩,
      fun unset => ⟨fun name among layer same =>
        unset.files name among layer (ok_of_toOption same), unset.environment⟩⟩

end TextSetting

theorem environmentLayer_append (before after : List (String × String)) :
    environmentLayer (before ++ after) = environmentLayer before ++ environmentLayer after :=
  List.filterMap_append

theorem environmentLayer_variableName (setting : TextSetting) (s : String)
    (after : List (String × String)) :
    environmentLayer ((setting.variableName, s) :: after) =
      (setting.path, .leaf (some environmentOrigin) (guessed s)) :: environmentLayer after := by
  simp only [environmentLayer, List.filterMap_cons, setting.variablePath?_variableName,
    Option.map_some, variableValue_eq setting.path_ne_listPath]

theorem overlayLayer_append (first second : List (String × Tree)) (tree : Tree) :
    overlayLayer (first ++ second) tree = overlayLayer second (overlayLayer first tree) :=
  List.foldl_append

def fileTree (layers : List (List (String × Tree))) : Tree :=
  layers.foldl (fun tree layer => overlayLayer layer tree) Tree.emptyTable

theorem load_eq_ok_iff {files : String → Option String} {environment : List (String × String)}
    {settings : Settings} :
    load files environment = .ok settings ↔
      ∃ layers, fileNames.mapM (namedLayer files) = .ok layers ∧
        ofTree (overlayLayer (environmentLayer environment) (fileTree layers)) = .ok settings := by
  unfold load loadTree
  cases read : fileNames.mapM (namedLayer files) with
  | error fault => simp [bind, Except.bind]
  | ok layers =>
    have folded : (layers ++ [environmentLayer environment]).foldl
        (fun tree layer => overlayLayer layer tree) Tree.emptyTable =
          overlayLayer (environmentLayer environment) (fileTree layers) := List.foldl_append
    simp only [bind, Except.bind, folded, Except.ok.injEq, exists_eq_left']
    cases ofTree (overlayLayer (environmentLayer environment) (fileTree layers)) <;>
      simp [Except.mapError]

theorem beside_fileTree {part field : String} {layers : List (List (String × Tree))}
    (apart : ∀ layer ∈ layers, ∀ entry ∈ layer, Apart part field entry) :
    Beside part field none (fileTree layers) (fileTree layers) := by
  suffices ∀ tree, Beside part field none tree tree →
      Beside part field none (layers.foldl (fun tree layer => overlayLayer layer tree) tree)
        (layers.foldl (fun tree layer => overlayLayer layer tree) tree) from
    this _ (beside_empty part field)
  induction layers with
  | nil => exact fun tree beside => beside
  | cons layer layers ih =>
    intro tree beside
    exact ih (fun later member => apart later (List.mem_cons_of_mem _ member)) _
      (beside.overlayLayer (apart layer List.mem_cons_self))

/-- The variable of a text setting that nothing else sets fills this setting and leaves all others
as they are. The text arrives as it is exactly if it is spelled the way its value is written. -/
theorem load_variable (setting : TextSetting) (s : String) {files : String → Option String}
    {before after : List (String × String)} (unset : setting.Unset files (before ++ after))
    {settings : Settings} (loaded : load files (before ++ after) = .ok settings) :
    ∃ filled, load files (before ++ (setting.variableName, s) :: after) = .ok filled ∧
      filled = setting.put (respelled s) settings ∧
      (setting.get filled = some s ↔ Verbatim s) := by
  obtain ⟨layers, read, decoded⟩ := load_eq_ok_iff.mp loaded
  rw [environmentLayer_append, overlayLayer_append] at decoded
  have apart := unset.environment
  rw [environmentLayer_append] at apart
  -- The tree with the variable is followed beside the one without it, from the empty tree on.
  have ofFiles : Beside setting.part setting.field none (fileTree layers) (fileTree layers) := by
    refine beside_fileTree fun layer member => ?_
    obtain ⟨name, among, same⟩ := mem_of_mapM_ok read member
    exact unset.files name among layer same
  have earlier := ofFiles.overlayLayer fun entry member =>
    apart entry (List.mem_append_left _ member)
  have filled := earlier.fill setting.target_field (some environmentOrigin) (guessed s)
  have beside := filled.overlayLayer fun entry member =>
    apart entry (List.mem_append_right _ member)
  have respells := setting.ofTree_of_beside (guessed_ne_null s) (asText_guessed _ s) beside decoded
  refine ⟨_, load_eq_ok_iff.mpr ⟨layers, read, ?_⟩, rfl, ?_⟩
  · rw [environmentLayer_append, overlayLayer_append, environmentLayer_variableName,
      overlayLayer_cons, setting.pathOf_path]
    exact respells
  · rw [setting.get_put, Option.some.injEq, respelled_eq_self_iff]

def localFile (name : String) : Option String :=
  if name = "config/local.toml" then some "[fx_source]\ntimeout_secs = 7\n" else none

def earlier : List (String × String) := [("APP__FX_SOURCE__BASE_URL", "http://localhost:1")]

def later : List (String × String) := [("PATH", "/bin"), ("app__cache__key_prefix", "fx")]

/-- The settings of the local file and the other variables. -/
def withoutKey : Settings := { standard with
  feed := { standard.feed with timeoutSeconds := 7, baseUrl := "http://localhost:1" }
  cache := { standard.cache with keySpace := some "fx" } }

theorem load_variable_of_localFile :
    TextSetting.apiKey.Unset localFile (earlier ++ later) ∧
      load localFile (earlier ++ later) = .ok withoutKey ∧
      ∃ filled, load localFile (earlier ++ ("APP__FX_SOURCE__API_KEY", "1.50") :: later) =
          .ok filled ∧
        filled = TextSetting.apiKey.put "1.5" withoutKey ∧ ¬Verbatim "1.50" := by
  have unset : TextSetting.apiKey.Unset localFile (earlier ++ later) := by decide +kernel
  have loaded : load localFile (earlier ++ later) = .ok withoutKey :=
    ok_of_toOption (by decide +kernel)
  obtain ⟨filled, fills, same, verbatim⟩ := load_variable .apiKey "1.50" unset loaded
  have respells : respelled "1.50" = "1.5" := by decide +kernel
  rw [respells] at same
  refine ⟨unset, loaded, filled, fills, same, fun canonical => ?_⟩
  have kept := verbatim.mpr canonical
  rw [same, TextSetting.get_put] at kept
  exact absurd kept (by decide)

/-- A text in the variable of a setting that nothing else sets arrives as it is. -/
def TextSetting.Arrives (setting : TextSetting) (s : String) : Prop :=
  ∀ files before after settings, setting.Unset files (before ++ after) →
    load files (before ++ after) = .ok settings →
      ∃ filled, load files (before ++ (setting.variableName, s) :: after) = .ok filled ∧
        setting.get filled = some s

/-- A key of digits loses its zeros. -/
theorem not_arrives_zeros :
    load (fun _ => none) [("APP__FX_SOURCE__API_KEY", "00123")] =
        .ok (TextSetting.apiKey.put "123" standard) ∧
      ¬TextSetting.apiKey.Arrives "00123" := by
  have loaded : load (fun _ => none) [("APP__FX_SOURCE__API_KEY", "00123")] =
      .ok (TextSetting.apiKey.put "123" standard) := ok_of_toOption (by decide +kernel)
  refine ⟨loaded, fun arrives => ?_⟩
  obtain ⟨filled, fills, same⟩ := arrives (fun _ => none) [] [] standard (by decide +kernel)
    (ok_of_toOption (by decide +kernel))
  obtain rfl := Except.ok.inj (loaded.symm.trans fills)
  rw [TextSetting.get_put] at same
  exact absurd same (by decide)

end Settings

end QuoteGateway