import DepositLedger.Settings.Directory
import DepositLedger.Text.Split

/-! Files of settings. Their names are paths that start in the directory `config` and
leave out the extension `toml`. A file is asked for by such a path as well, which may take
another way to it and need not leave out the extension. -/

namespace DepositLedger

abbrev SettingsFiles (α : Type) := List (FilePlace × α)

namespace SettingsFiles

variable {α : Type}

def partsOf (path : String) : List String :=
  (Text.splitAt '/' path.toList).map String.ofList

def placeOf (name : String) : FilePlace :=
  let parts := partsOf name
  ⟨parts.dropLast.foldl Directory.follow .settings, parts.getLast?.getD "" ++ ".toml"⟩

/-- Files by their names. Of those at one place only the last one is there. -/
def ofNamed (named : List (String × α)) : SettingsFiles α :=
  named.reverse.map fun (name, file) => (placeOf name, file)

def hasDirectory (files : SettingsFiles α) (directory : Directory) : Bool :=
  directory.holds .settings || files.any fun (place, _) => directory.holds place.directory

/-- The directory that a path leads to, if all directories on its way are there. -/
def follow? (files : SettingsFiles α) (path : List String) : Option Directory :=
  path.foldlM
    (fun directory part =>
      let next := directory.follow part
      if files.hasDirectory next then some next else none)
    .settings

/-- Whether a name has a dot that something stands before. -/
def hasExtension (name : String) : Bool := (name.toList.drop 1).contains '.'

/-- The file that a path leads to. With nothing after its name, a file may be named in
full, which comes before a file with a second extension; but one that has no name besides
its extension is not read. With a slash after it, a name stands for a file only if it has
no dots that could be taken for an extension. -/
def get? (files : SettingsFiles α) (path : String) : Option α :=
  let parts := partsOf path
  match (parts.filter fun part => part != "" && part != ".").reverse with
  | [] | ".." :: _ => none
  | last :: before =>
    (files.follow? before.reverse).bind fun directory =>
      let named? (name : String) : Option α := files.lookup ⟨directory, name⟩
      if parts.getLast? != some last then
        if hasExtension last then none else named? (last ++ ".toml")
      else
        match named? last with
        | some file => if last == ".toml" then none else some file
        | none => named? (last ++ ".toml")

end SettingsFiles

end DepositLedger
