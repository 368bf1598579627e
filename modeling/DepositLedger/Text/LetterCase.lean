/-! Names that are read without regard to the case of the letters A to Z. No
other letter has a second spelling: a dotted or full-width letter stays as it is. -/

namespace DepositLedger.Text

/-- A text with the letters A to Z in lower case and all else as it was. -/
def lowerCase (text : String) : String :=
  text.map Char.toLower

/-- The same text, letter by letter, whatever the case of the letters A to Z. -/
def eqIgnoringCase (first second : String) : Bool :=
  first.toList.length == second.toList.length &&
    (first.toList.zip second.toList).all fun pair => pair.1.toLower == pair.2.toLower

end DepositLedger.Text
