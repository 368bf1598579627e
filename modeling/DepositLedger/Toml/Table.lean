import DepositLedger.Settings.Tree

/-! Tables of TOML while they are being read. A table can be added to, but only in the
way it was made, and no key can be set twice. -/

namespace DepositLedger.Toml

/-- How a table came about. -/
inductive TableForm where
  /-- By the header of a table inside it. -/
  | implied
  /-- By a key with dots, or first by the header of a table inside it and then by such a
  key that adds to it. -/
  | dotted
  /-- By its own header. -/
  | defined
deriving DecidableEq

inductive Node where
  /-- A value, which stays as it is. -/
  | value (tree : SettingsTree)
  | table (form : TableForm) (entries : List (String × Node))
  /-- A list of tables; the entries are those of the last one. -/
  | tables (before : List SettingsTree) (entries : List (String × Node))

abbrev Entries := List (String × Node)

mutual
def Node.tree : Node → SettingsTree
  | .value tree => tree
  | .table _ entries => .table (trees entries)
  | .tables before entries => .list (before ++ [.table (trees entries)])

def trees : List (String × Node) → List (String × SettingsTree)
  | [] => []
  | (key, node) :: rest => (key, node.tree) :: trees rest
end

/-- Changes what a key stands for. The change may refuse what it finds. -/
def changeKey? (key : String) (change : Option Node → Option Node) : Entries → Option Entries
  | [] => (change none).map fun node => [(key, node)]
  | (first, node) :: rest =>
    if first = key then (change (some node)).map fun node => (first, node) :: rest
    else (changeKey? key change rest).map fun rest => (first, node) :: rest

/-- Changes the entries of a table that a header leads through or to. A table that is
missing is made, and of a list of tables it is the last one. -/
def throughHeader? (change : Entries → Option Entries) : Option Node → Option Node
  | none => (change []).map (.table .implied)
  | some (.table form entries) => (change entries).map (.table form)
  | some (.tables before entries) => (change entries).map (.tables before)
  | some (.value _) => none

/-- Changes the entries of a table that a key with dots leads through, or to if it is the
last one before the key that is set. Such a key adds to no table that has a header, but may
lead through the last table of a list. -/
def throughDots? (isLast : Bool) (change : Entries → Option Entries) :
    Option Node → Option Node
  | none => (change []).map (.table .dotted)
  | some (.table .defined _) | some (.value _) => none
  | some (.table _ entries) => (change entries).map (.table .dotted)
  | some (.tables before entries) =>
    if isLast then none else (change entries).map (.tables before)

/-- Sets a key to a value, which it must not have yet. -/
def setKey? (value : SettingsTree) : List String → Entries → Option Entries
  | [], _ => none
  | [key], entries =>
    changeKey? key (fun node? => if node?.isNone then some (.value value) else none) entries
  | key :: next :: rest, entries =>
    changeKey? key (throughDots? rest.isEmpty (setKey? value (next :: rest))) entries

/-- Makes the table of a header. Only one that is implied may be there already. -/
def define : Option Node → Option Node
  | none => some (.table .defined [])
  | some (.table .implied entries) => some (.table .defined entries)
  | some _ => none

def extend : Option Node → Option Node
  | none => some (.tables [] [])
  | some (.tables before entries) => some (.tables (before ++ [.table (trees entries)]) [])
  | some _ => none

def changePath? (change : Option Node → Option Node) : List String → Entries → Option Entries
  | [], _ => none
  | [key], entries => changeKey? key change entries
  | key :: next :: rest, entries =>
    changeKey? key (throughHeader? (changePath? change (next :: rest))) entries

/-- Changes the entries of the table that a header has made. -/
def changeTable? (change : Entries → Option Entries) : List String → Entries → Option Entries
  | [], entries => change entries
  | key :: rest, entries => changeKey? key (throughHeader? (changeTable? change rest)) entries

inductive Statement where
  /-- The header of a table, to which the entries after it belong. -/
  | table (path : List String)
  /-- The header of one more table of a list. -/
  | tables (path : List String)
  | entry (path : List String) (value : SettingsTree)

structure Document where
  entries : Entries
  header : List String

namespace Document

def take? (document : Document) : Statement → Option Document
  | .table path => (changePath? define path document.entries).map fun entries => ⟨entries, path⟩
  | .tables path => (changePath? extend path document.entries).map fun entries => ⟨entries, path⟩
  | .entry path value =>
    (changeTable? (setKey? value path) document.header document.entries).map fun entries =>
      ⟨entries, document.header⟩

/-- The tree of a document, if each of its statements may follow those before it. -/
def read? (statements : List Statement) : Option (List (String × SettingsTree)) :=
  (statements.foldlM take? ⟨[], []⟩).map fun document => trees document.entries

end Document

end DepositLedger.Toml
