/-! Text in parts. -/

namespace DepositLedger.Text

/-- The parts of a text between the places where it has a separator. -/
def splitAt (separator : Char) : List Char → List (List Char)
  | [] => [[]]
  | char :: rest =>
    match char == separator, splitAt separator rest with
    | true, parts => [] :: parts
    | false, part :: parts => (char :: part) :: parts
    | false, [] => [[char]]

end DepositLedger.Text
