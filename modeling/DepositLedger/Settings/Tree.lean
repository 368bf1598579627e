import DepositLedger.Settings.Path

/-! Values that sources have for settings. They form a tree of tables and lists. Putting
a value at a place makes what is missing on the way to it. -/

namespace DepositLedger

inductive SettingsTree where
  /-- What stands in a list before anything is put there. -/
  | empty
  | text (value : String)
  | integer (value : Int)
  | real (value : Float)
  | flag (value : Bool)
  | list (items : List SettingsTree)
  | table (entries : List (String × SettingsTree))

namespace SettingsTree

/-- The entries of a table; anything else has none. -/
def entries : SettingsTree → List (String × SettingsTree)
  | table entries => entries
  | _ => []

/-- The items of a list; anything else has none. -/
def items : SettingsTree → List SettingsTree
  | list items => items
  | _ => []

/-- Changes the entry of a key. If there is none, it is made from an empty one. -/
def changeEntry (key : String) (change : SettingsTree → SettingsTree) :
    List (String × SettingsTree) → List (String × SettingsTree)
  | [] => [(key, change empty)]
  | (first, value) :: rest =>
    if first = key then (first, change value) :: rest
    else (first, value) :: changeEntry key change rest

/-- Changes the item at a position, which is counted from the end if it is negative. A
list that does not reach as far is made longer on that side. -/
def changeItem (index : Int) (change : SettingsTree → SettingsTree)
    (items : List SettingsTree) : List SettingsTree :=
  match index with
  | .ofNat index =>
    (items ++ List.replicate (index + 1 - items.length) empty).modify index change
  | .negSucc beyond =>
    let longer := List.replicate (beyond + 1 - items.length) empty ++ items
    longer.modify (longer.length - (beyond + 1)) change

/-- Changes what is at a place. On the way to it, what is no table or no list where one
is needed gives way to an empty one. -/
def changeAt (change : SettingsTree → SettingsTree) :
    SettingsPath → SettingsTree → SettingsTree
  | [], tree => change tree
  | .key name :: rest, tree => table (changeEntry name (changeAt change rest) tree.entries)
  | .position index :: rest, tree => list (changeItem index (changeAt change rest) tree.items)

mutual
/-- What becomes of a value that another one is put over. A table is put over it entry by
entry and leaves its other entries as they are, anything else takes its place. -/
def putOver : SettingsTree → SettingsTree → SettingsTree
  | table entries, before => table (putEntriesOver entries before.entries)
  | value, _ => value

def putEntriesOver :
    List (String × SettingsTree) → List (String × SettingsTree) → List (String × SettingsTree)
  | [], before => before
  | (key, value) :: rest, before => putEntriesOver rest (changeEntry key (putOver value) before)
end

theorem lookup_changeEntry_self (key : String) (change : SettingsTree → SettingsTree)
    (entries : List (String × SettingsTree)) :
    (changeEntry key change entries).lookup key =
      some (change ((entries.lookup key).getD empty)) := by
  induction entries with
  | nil => simp [changeEntry]
  | cons entry rest induction =>
    obtain ⟨first, value⟩ := entry
    rw [changeEntry]
    split
    · rename_i same
      subst same
      simp
    · rename_i different
      have apart : (key == first) = false := by simpa using Ne.symm different
      simp [List.lookup_cons, apart, induction]

theorem lookup_changeEntry_of_ne {key other : String} (different : other ≠ key)
    (change : SettingsTree → SettingsTree) (entries : List (String × SettingsTree)) :
    (changeEntry key change entries).lookup other = entries.lookup other := by
  induction entries with
  | nil =>
    have apart : (other == key) = false := by simpa using different
    simp [changeEntry, List.lookup_cons, apart]
  | cons entry rest induction =>
    obtain ⟨first, value⟩ := entry
    rw [changeEntry]
    split
    · rename_i same
      subst same
      have apart : (other == first) = false := by simpa using different
      simp [List.lookup_cons, apart]
    · simp [List.lookup_cons, induction]

end SettingsTree

end DepositLedger
