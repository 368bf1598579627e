import DepositLedger.Decimal.Shortest
import DepositLedger.Settings.Tree
import DepositLedger.Text.LetterCase

/-! Settings made of the values that sources have for them. A value need not be of the
kind of its setting if it can be read as one. -/

namespace DepositLedger.SettingsTree

def textOfFloat (value : Float) : String :=
  if value.isNaN then "NaN"
  else if value.isInf then if value < 0 then "-inf" else "inf"
  else (Decimal.ofFloat value).toText

/-- A number is read as the text that it is written as. -/
def toText? : SettingsTree → Option String
  | text value => some value
  | integer value => some (toString value)
  | real value => some (textOfFloat value)
  | flag true => some "true"
  | flag false => some "false"
  | empty | list _ | table _ => none

/-- The number that a text stands for: a word for one or zero, or decimal digits after
at most one plus sign. -/
def countOfText? (value : String) : Option Nat :=
  let word := Text.lowerCase value
  if ["true", "on", "yes"].contains word then some 1
  else if ["false", "off", "no"].contains word then some 0
  else
    let digits :=
      match value.toList with
      | '+' :: digits => digits
      | digits => digits
    if !digits.isEmpty && digits.all Char.isDigit then some (Text.decimalValue digits) else none

/-- The whole number that is nearest to a double, and zero for one that is negative or no
number. An infinite one is read as 2^1024. -/
def countOfFloat (value : Float) : Nat :=
  let number := BinaryNumber.ofFloat value
  if number.negative || value.isNaN then 0 else number.nearestWhole

def toCount? (tree : SettingsTree) : Option UInt32 :=
  let count? : Option Nat :=
    match tree with
    | text value => countOfText? value
    | integer (.ofNat value) => some value
    | integer (.negSucc _) => none
    | real value => some (countOfFloat value)
    | flag value => some value.toNat
    | empty | list _ | table _ => none
  count?.bind fun count => if count < UInt32.size then some (UInt32.ofNat count) else none

/-- The settings of a section by their names. A list has them in the order that they are
named in, and what it has beyond them does not matter. -/
def fields? (names : List String) : SettingsTree → Option (String → Option SettingsTree)
  | table entries => some fun name => entries.lookup name
  | list items => some fun name => (names.zip items).lookup name
  | _ => none

/-- A count that may be missing. -/
def countOr (otherwise : UInt32) : Option SettingsTree → Option UInt32
  | some tree => tree.toCount?
  | none => some otherwise

end DepositLedger.SettingsTree
