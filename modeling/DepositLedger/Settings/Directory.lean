/-! Directories and the places of files in them. -/

namespace DepositLedger

/-- A directory, by the way to it from the one that holds the directory `config`. -/
structure Directory where
  /-- How many directories the way goes up at first. -/
  above : Nat
  /-- The directories that it then goes down through, the last one first. -/
  below : List String
deriving DecidableEq

namespace Directory

def settings : Directory := ⟨0, ["config"]⟩

/-- The directory that one part of a path leads to. -/
def follow (directory : Directory) (part : String) : Directory :=
  if part == "" || part == "." then directory
  else if part == ".." then
    match directory.below with
    | [] => ⟨directory.above + 1, []⟩
    | _ :: below => ⟨directory.above, below⟩
  else ⟨directory.above, part :: directory.below⟩

/-- Whether a directory is another one or holds it at some depth. -/
def holds (outer inner : Directory) : Bool :=
  if outer.below.isEmpty then inner.above ≤ outer.above
  else outer.above == inner.above && outer.below.isSuffixOf inner.below

end Directory

structure FilePlace where
  directory : Directory
  /-- The name of the file with its extension. -/
  name : String
deriving DecidableEq

end DepositLedger
