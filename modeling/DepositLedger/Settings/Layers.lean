import DepositLedger.Settings
import DepositLedger.Settings.Conversion
import DepositLedger.Settings.Files
import DepositLedger.Toml.Reader

/-! Settings put together from layers: a file of defaults, a file for the mode the
service runs in, and the variables of its environment. A later layer overrides an
earlier one key by key. Only the values that remain are made into settings, so that
one that is overridden may be of any kind. -/

namespace DepositLedger

/-- A value and the place that it is put at. -/
structure Assignment where
  path : SettingsPath
  value : SettingsTree

/-- The assignments of a source, in the order they are made. -/
abbrev Layer := List Assignment

namespace Layer

/-- The tree after all assignments are made. -/
def putOver (layer : Layer) (tree : SettingsTree) : SettingsTree :=
  layer.foldl
    (fun tree assignment => tree.changeAt assignment.value.putOver assignment.path) tree

/-- The assignments of a file. The names of its sections may be paths, the keys below
them stand for themselves. -/
def ofEntries (entries : List (String × SettingsTree)) : Layer :=
  entries.map fun (name, value) => ⟨SettingsPath.ofName name, value⟩

/-- The layer of a file with a given text; none if it is not well formed. -/
def ofText? (text : String) : Option Layer := (Toml.read? text).map ofEntries

end Layer

namespace Environment

/-- The only letter beyond A to Z with a lower case among a to z is the sign of the
kelvin. -/
def lowerLetter (char : Char) : Char := if char = '\u212a' then 'k' else char.toLower

/-- A name with a dot in the place of each two underscores. -/
def dotted : List Char → List Char
  | '_' :: '_' :: rest => '.' :: dotted rest
  | char :: rest => char :: dotted rest
  | [] => []

/-- The place that a variable is for, whatever the case of its letters. Variables of
other names are not for the ledger. -/
def path? (name : String) : Option SettingsPath :=
  match name.toList.map lowerLetter with
  | 'g' :: 'l' :: '_' :: '_' :: rest => some (SettingsPath.ofName (String.ofList (dotted rest)))
  | _ => none

def layer (assigned : List (String × String)) : Layer :=
  assigned.filterMap fun (name, value) =>
    (path? name).map fun path => ⟨path, .text value⟩

/-- The mode that the service runs in, which is the path to a file of settings. -/
def runMode (assigned : List (String × String)) : String :=
  (assigned.lookup "RUN_MODE").getD "development"

end Environment

structure SettingsSources where
  /-- Files by their names; none stands for one that is not well formed. -/
  files : List (String × Option Layer)
  environment : List (String × String)

/-- The layer of the file that a path leads to. One that is not there changes nothing. -/
def SettingsSources.file (sources : SettingsSources) (path : String) :
    Except SettingsFault Layer :=
  match (SettingsFiles.ofNamed sources.files).get? path with
  | none => .ok []
  | some none => .error .unreadable
  | some (some layer) => .ok layer

/-- What puts sources together: values of type `τ` are what they come to so far. -/
structure SettingsLibrary (τ : Type) where
  empty : τ
  /-- Adds a file, which need not be there. -/
  addFile : SettingsSources → (path : String) → τ → Except SettingsFault τ
  addEnvironment : SettingsSources → τ → τ
  /-- The settings, if none is missing and each can be read. -/
  read? : τ → Option Settings

/-- Loads settings from the lowest source to the highest, and checks them. -/
def SettingsLibrary.load {τ : Type} (library : SettingsLibrary τ) (sources : SettingsSources) :
    Except SettingsFault Settings := do
  let defaults ← library.addFile sources "default" library.empty
  let special ← library.addFile sources (Environment.runMode sources.environment) defaults
  match library.read? (library.addEnvironment sources special) with
  | some settings =>
    settings.check
    return settings
  | none => throw .unreadable

/-- The settings of a tree, if none is missing and each can be read. -/
def Settings.ofTree? (tree : SettingsTree) : Option Settings := do
  let section? (name : String) (names : List String) : Option (String → Option SettingsTree) :=
    (tree.entries.lookup name).bind (SettingsTree.fields? names)
  let database ← section? "database" ["url", "max_connections", "min_connections"]
  let url ← (database "url").bind SettingsTree.toText?
  let maxConnections ←
    SettingsTree.countOr defaultMaxConnections (database "max_connections")
  let minConnections ←
    SettingsTree.countOr defaultMinConnections (database "min_connections")
  let ledger ← section? "ledger" ["default_routing_number"]
  let routingNumber ← (ledger "default_routing_number").bind SettingsTree.toText?
  return { database := { url, maxConnections, minConnections }, routingNumber }

/-- Sources are put together in a tree. -/
def SettingsLibrary.layered : SettingsLibrary SettingsTree where
  empty := .table []
  addFile sources path tree := (sources.file path).map fun layer => layer.putOver tree
  addEnvironment sources tree := (Environment.layer sources.environment).putOver tree
  read? := Settings.ofTree?

def SettingsSources.load (sources : SettingsSources) : Except SettingsFault Settings :=
  SettingsLibrary.layered.load sources

end DepositLedger
