import DepositLedger.Proofs.Layers
import Mathlib

/-! Settings that are loaded from layers. Each one is read from the value that the highest layer
with its very key has for it, and nothing else that the layers have comes into it. -/

namespace DepositLedger

/-- The sizes of the pool of connections are known without any layer. -/
def SettingName.builtIn? : SettingName → Option SettingsTree
  | maxConnections => some (.integer Settings.defaultMaxConnections.toNat)
  | minConnections => some (.integer Settings.defaultMinConnections.toNat)
  | url | routingNumber => none

namespace Settings

/-- Settings that values are given for, before they are checked. -/
def ofValues? (value? : SettingName → Option SettingsTree) : Option Settings := do
  let url ← (value? .url).bind SettingsTree.toText?
  let maxConnections ← (value? .maxConnections).bind SettingsTree.toCount?
  let minConnections ← (value? .minConnections).bind SettingsTree.toCount?
  let routingNumber ← (value? .routingNumber).bind SettingsTree.toText?
  return { database := { url, maxConnections, minConnections }, routingNumber }

/-- What loading comes to once it is known which value each setting has. -/
def ofValues (value? : SettingName → Option SettingsTree) : Except SettingsFault Settings :=
  match ofValues? value? with
  | some settings => do
    settings.check
    return settings
  | none => throw .unreadable

/-- Settings that are read from given values and can be used: the routing number is more than
blanks, and the least number of connections is no more than the most. -/
structure TakenFrom (settings : Settings) (value? : SettingName → Option SettingsTree) :
    Prop where
  url : (value? .url).bind SettingsTree.toText? = some settings.database.url
  maxConnections : (value? .maxConnections).bind SettingsTree.toCount? =
    some settings.database.maxConnections
  minConnections : (value? .minConnections).bind SettingsTree.toCount? =
    some settings.database.minConnections
  routingNumber : (value? .routingNumber).bind SettingsTree.toText? =
    some settings.routingNumber
  notBlank : ∃ char ∈ settings.routingNumber.toList, Text.isBlank char = false
  inOrder : settings.database.minConnections ≤ settings.database.maxConnections

private theorem toCount?_integer (count : UInt32) :
    SettingsTree.toCount? (.integer count.toNat) = some count := by
  change (if count.toNat < UInt32.size then some (UInt32.ofNat count.toNat) else none) = _
  rw [if_pos count.toNat_lt, UInt32.ofNat_toNat]

private theorem countOr_eq (otherwise : UInt32) (value? : Option SettingsTree) :
    SettingsTree.countOr otherwise value? =
      (value?.or (some (.integer otherwise.toNat))).bind SettingsTree.toCount? := by
  cases value? with
  | some value => rfl
  | none => exact (toCount?_integer otherwise).symm

private theorem ofTree?_eq {tree : SettingsTree} {value? : SettingName → Option SettingsTree}
    (gives : ∀ name, tree.Gives name (value? name)) :
    ofTree? tree = ofValues? fun name => (value? name).or name.builtIn? := by
  have values : value? = tree.valueOf? := funext fun name => (gives name).value.symm
  have database := (gives .url).isTable
  have ledger := (gives .routingNumber).isTable
  subst values
  simp only [ofTree?, ofValues?, countOr_eq, SettingsTree.valueOf?, SettingName.builtIn?,
    Option.or_none]
  cases foundDatabase : tree.entries.lookup "database" with
  | none => simp [SettingName.sectionName, foundDatabase]
  | some found =>
      obtain ⟨entries, rfl⟩ := database found foundDatabase
      cases foundLedger : tree.entries.lookup "ledger" with
      | none => simp [SettingName.sectionName, foundDatabase, foundLedger]
      | some found =>
          obtain ⟨others, rfl⟩ := ledger found foundLedger
          simp only [SettingName.sectionName, foundDatabase, foundLedger]
          rfl

private theorem check_eq_ok_iff {settings : Settings} :
    settings.check = .ok () ↔
      (∃ char ∈ settings.routingNumber.toList, Text.isBlank char = false) ∧
        settings.database.minConnections ≤ settings.database.maxConnections := by
  by_cases blank : Text.isBlankText settings.routingNumber = true
  · rw [check, if_pos blank]
    rw [Text.isBlankText, List.all_eq_true] at blank
    refine iff_of_false nofun fun good => ?_
    obtain ⟨⟨char, member, notBlank⟩, -⟩ := good
    rw [blank char member] at notBlank
    cases notBlank
  · rw [check, if_neg blank]
    rw [Text.isBlankText, Bool.not_eq_true, List.all_eq_false] at blank
    by_cases crossed : settings.database.maxConnections < settings.database.minConnections
    · rw [if_pos crossed]
      exact iff_of_false nofun fun good => absurd good.2 (UInt32.not_le.mpr crossed)
    · rw [if_neg crossed]
      obtain ⟨char, member, notBlank⟩ := blank
      exact iff_of_true rfl ⟨⟨char, member, by simpa using notBlank⟩, UInt32.not_lt.mp crossed⟩

private theorem takenFrom_of_check {settings : Settings}
    {value? : SettingName → Option SettingsTree}
    (taken : ofValues? value? = some settings) (checked : settings.check = .ok ()) :
    settings.TakenFrom value? := by
  simp only [ofValues?, Option.bind_eq_bind, Option.bind_eq_some_iff] at taken
  obtain ⟨url, urlRead, most, mostRead, least, leastRead, routing, routingRead, same⟩ := taken
  cases same
  obtain ⟨notBlank, inOrder⟩ := check_eq_ok_iff.mp checked
  rw [← Option.bind_eq_some_iff] at urlRead mostRead leastRead routingRead
  exact ⟨urlRead, mostRead, leastRead, routingRead, notBlank, inOrder⟩

private theorem ofValues_eq_ok_iff {settings : Settings}
    {value? : SettingName → Option SettingsTree} :
    ofValues value? = .ok settings ↔ settings.TakenFrom value? := by
  constructor
  · intro loaded
    cases taken : ofValues? value? with
    | none =>
        rw [ofValues, taken] at loaded
        cases loaded
    | some found =>
        rw [ofValues, taken] at loaded
        cases checked : found.check with
        | error fault =>
            simp only [checked] at loaded
            cases loaded
        | ok =>
            simp only [checked] at loaded
            cases loaded
            exact takenFrom_of_check taken checked
  · intro taken
    have values : ofValues? value? = some settings := by
      rw [ofValues?, taken.url, taken.maxConnections, taken.minConnections, taken.routingNumber]
      rfl
    have checked := check_eq_ok_iff.mpr ⟨taken.notBlank, taken.inOrder⟩
    rw [ofValues, values]
    simp only [checked]
    rfl

end Settings

/-! ## What is relied on of a configuration library -/

/-- What is relied on of a library that puts sources together, where `gives` says which value it
has so far for each setting. -/
structure SettingsLibrary.Lawful {τ : Type} (library : SettingsLibrary τ)
    (gives : τ → (SettingName → Option SettingsTree) → Prop) : Prop where
  empty : gives library.empty fun _ => none
  /-- A file is put over what was there key by key. -/
  addFile : ∀ {sources path held value?} {file : SectionedFile},
    sources.file path = .ok file.layer → file.Spares → gives held value? →
    ∃ after, library.addFile sources path held = .ok after ∧
      gives after fun name => (file.value? name).or (value? name)
  /-- So are variables, each of them for one key. -/
  addEnvironment : ∀ {sources held value?}, Environment.IsSectioned sources.environment →
    gives held value? →
    gives (library.addEnvironment sources held) fun name =>
      (Environment.value? sources.environment name).or (value? name)
  /-- Each setting is read from its own value, or else from the one that is built in. -/
  read? : ∀ {held value?}, gives held value? →
    library.read? held = Settings.ofValues? fun name => (value? name).or name.builtIn?

private theorem SettingsLibrary.layered_lawful :
    layered.Lawful fun tree value? => ∀ name, tree.Gives name (value? name) where
  empty := SettingsTree.gives_none
  addFile := by
    intro sources path held value? file read spares gives
    refine ⟨_, congrArg (Except.map _) read, fun name => ?_⟩
    exact SectionedFile.gives_putOver spares (gives name)
  addEnvironment := fun sectioned gives name => Environment.gives_putOver sectioned (gives name)
  read? := Settings.ofTree?_eq

namespace SettingsSources

variable {sources : SettingsSources} {defaults special : SectionedFile}

/-- Sources whose files are made of sections and whose variables say a section and a key. -/
structure Layered (sources : SettingsSources) (defaults special : SectionedFile) : Prop where
  defaults : sources.file "default" = .ok defaults.layer
  special : sources.file (Environment.runMode sources.environment) = .ok special.layer
  environment : Environment.IsSectioned sources.environment

/-- The value that the highest layer with the key of a setting has for it. -/
def chosen? (environment : List (String × String)) (defaults special : SectionedFile)
    (name : SettingName) : Option SettingsTree :=
  (Environment.value? environment name).or <|
    (special.value? name).or <| (defaults.value? name).or name.builtIn?

/-- What loading comes to with any library that can be relied on. -/
theorem Layered.libraryLoad_eq {τ : Type} {library : SettingsLibrary τ}
    {gives : τ → (SettingName → Option SettingsTree) → Prop} (lawful : library.Lawful gives)
    (layered : sources.Layered defaults special) (defaultsSpare : defaults.Spares)
    (specialSpares : special.Spares) :
    library.load sources = Settings.ofValues (chosen? sources.environment defaults special) := by
  rcases lawful.addFile layered.defaults defaultsSpare lawful.empty with
    ⟨withDefaults, addedDefaults, defaultsGive⟩
  rcases lawful.addFile layered.special specialSpares defaultsGive with
    ⟨withSpecial, addedSpecial, specialGives⟩
  have read := lawful.read? (lawful.addEnvironment layered.environment specialGives)
  have chosen : (fun name => ((Environment.value? sources.environment name).or
      ((special.value? name).or ((defaults.value? name).or none))).or name.builtIn?) =
      chosen? sources.environment defaults special := by
    funext name
    simp only [chosen?, Option.or_none, Option.or_assoc]
  rw [chosen] at read
  rw [SettingsLibrary.load, addedDefaults, Settings.ofValues, ← read]
  change (library.addFile sources (Environment.runMode sources.environment) withDefaults >>= _) = _
  rw [addedSpecial]
  rfl

theorem Layered.load_eq (layered : sources.Layered defaults special)
    (defaultsSpare : defaults.Spares) (specialSpares : special.Spares) :
    sources.load = Settings.ofValues (chosen? sources.environment defaults special) :=
  layered.libraryLoad_eq SettingsLibrary.layered_lawful defaultsSpare specialSpares

/-- Unless a section is named by a path that leads to a setting by another way, loading succeeds
exactly with the settings that are read from the value of the highest layer for each key. What is
overridden plays no part: sources that come to the same values load alike, failures included. -/
theorem settings_are_of_the_highest_layers (layered : sources.Layered defaults special)
    (defaultsSpare : defaults.Spares) (specialSpares : special.Spares) :
    (∀ settings, sources.load = .ok settings ↔
      settings.TakenFrom (chosen? sources.environment defaults special)) ∧
    ∀ (others : SettingsSources) (otherDefaults otherSpecial : SectionedFile),
      others.Layered otherDefaults otherSpecial → otherDefaults.Spares → otherSpecial.Spares →
      chosen? others.environment otherDefaults otherSpecial =
        chosen? sources.environment defaults special →
      others.load = sources.load := by
  have loaded := layered.load_eq defaultsSpare specialSpares
  constructor
  · intro settings
    rw [loaded, Settings.ofValues_eq_ok_iff]
  · intro others otherDefaults otherSpecial otherLayered otherDefaultsSpare otherSpecialSpares
      same
    rw [loaded, ← same, otherLayered.load_eq otherDefaultsSpare otherSpecialSpares]

/-! ### A bank -/

def bankDefaultsText : String :=
  "[database]\nmax_connections = 2\nurl = \"postgres://bank\"\n\n" ++
    "[ledger]\ndefault_routing_number = 219871289\n"

def bankDefaults : SectionedFile where
  sections :=
    [{ name := "database"
       entries := [("max_connections", .integer 2), ("url", .text "postgres://bank")]
       distinct := by decide
       scalar := by decide },
      { name := "ledger"
        entries := [("default_routing_number", .integer 219871289)]
        distinct := by decide
        scalar := by decide }]
  distinct := by decide

private theorem bankDefaults_spares : bankDefaults.Spares := by
  refine List.forall_mem_cons.mpr ⟨?_, List.forall_mem_singleton.mpr ?_⟩ <;>
    exact SettingsSection.spares_of_plain (by decide)

/-- Sources of a bank: its defaults, a file for its development and an environment. -/
def bankSources (developmentText : String) (environment : List (String × String)) :
    SettingsSources where
  files :=
    [("default", Layer.ofText? bankDefaultsText), ("development", Layer.ofText? developmentText)]
  environment := environment

private theorem bankSources_layered {developmentText : String}
    {environment : List (String × String)}
    {development : SectionedFile} (read : Layer.ofText? developmentText = some development.layer)
    (mode : Environment.runMode environment = "development")
    (sectioned : Environment.IsSectioned environment) :
    (bankSources developmentText environment).Layered bankDefaults development := by
  have readDefaults : Layer.ofText? bankDefaultsText = some bankDefaults.layer := by cbv
  refine ⟨?_, ?_, sectioned⟩
  · rw [bankSources, readDefaults]
    rfl
  · change (bankSources developmentText environment).file (Environment.runMode environment) = _
    rw [mode, bankSources, read]
    rfl

/-- A value that is no number of connections does no harm once it is overridden. -/
def crowdedText : String := "[database]\nmin_connections = \"many\"\n"

def crowded : SectionedFile where
  sections :=
    [{ name := "database"
       entries := [("min_connections", .text "many")]
       distinct := by decide
       scalar := by decide }]
  distinct := by decide

def crowdedEnvironment : List (String × String) :=
  [("RUN_MODE", "development"), ("GL__DATABASE__MIN_CONNECTIONS", "on")]

private theorem crowdedEnvironment_sectioned : Environment.IsSectioned crowdedEnvironment := by
  have same : Text.lowerCase "GL__DATABASE__MIN_CONNECTIONS" =
      SettingName.minConnections.environmentName := by cbv
  refine ⟨List.forall_mem_cons.mpr ⟨.inl rfl, List.forall_mem_singleton.mpr (.inr ?_)⟩, ?_⟩
  · exact Environment.isSettingVariable_of_eq same
  · exact List.pairwise_pair.mpr fun _ => by simp [Text.lowerCase, ← String.toList_inj]

private theorem crowded_taken :
    Settings.TakenFrom ⟨⟨"postgres://bank", 2, 1⟩, "219871289"⟩
      (chosen? crowdedEnvironment bankDefaults crowded) := by
  have given (name : SettingName) : Environment.value? crowdedEnvironment name =
      if name = .minConnections then some (.text "on") else none := by
    cases name <;> simp [crowdedEnvironment, Environment.value?, Environment.valueOf?,
      Text.lowerCase, SettingName.environmentName, SettingName.sectionName, SettingName.key,
      ← String.toList_inj]
  constructor
  case notBlank => exact ⟨'2', by decide, by decide⟩
  case inOrder => decide
  all_goals
    rw [chosen?, given]
    cbv

theorem settings_are_of_the_highest_layers_crowded :
    let sources := bankSources crowdedText crowdedEnvironment
    sources.Layered bankDefaults crowded ∧ bankDefaults.Spares ∧ crowded.Spares ∧
      sources.load = .ok ⟨⟨"postgres://bank", 2, 1⟩, "219871289"⟩ := by
  have layered : (bankSources crowdedText crowdedEnvironment).Layered bankDefaults crowded :=
    bankSources_layered (by cbv) rfl crowdedEnvironment_sectioned
  have spares : crowded.Spares :=
    List.forall_mem_singleton.mpr (SettingsSection.spares_of_plain (by decide))
  have loaded := (settings_are_of_the_highest_layers layered bankDefaults_spares spares).1
  exact ⟨layered, bankDefaults_spares, spares, (loaded _).mpr crowded_taken⟩

/-- The quoted name of a section that is read as a place in a list. -/
def indexedText : String := "[\"ledger[0]\"]\nx = 1\n"

def indexed : SectionedFile where
  sections :=
    [{ name := "ledger[0]"
       entries := [("x", .integer 1)]
       distinct := by decide
       scalar := by decide }]
  distinct := by decide

/-- A section whose name is a path to a list makes a list of what the path leads to. -/
theorem not_loaded_indexed :
    let sources := bankSources indexedText []
    let settings : Settings := ⟨⟨"postgres://bank", 2, 1⟩, "219871289"⟩
    sources.Layered bankDefaults indexed ∧
      settings.TakenFrom (chosen? [] bankDefaults indexed) ∧
      sources.load = .error .unreadable := by
  intro sources settings
  have layered : sources.Layered bankDefaults indexed :=
    bankSources_layered (by cbv) rfl ⟨by simp, .nil⟩
  refine ⟨layered, ?_, ?_⟩
  · exact {
      url := rfl
      maxConnections := rfl
      minConnections := rfl
      routingNumber := by decide
      notBlank := ⟨'2', by decide, by decide⟩
      inOrder := by decide }
  · simp only [load, SettingsLibrary.load, SettingsLibrary.layered, layered.defaults,
      layered.special]
    rfl

end SettingsSources

end DepositLedger
