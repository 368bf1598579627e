/-! Blank characters: the ones with the property White_Space. -/

namespace DepositLedger.Text

/-- The ranges of blank characters, first and last code point of each. -/
def blankRanges : List (Nat × Nat) :=
  [(0x9, 0xD), (0x20, 0x20), (0x85, 0x85), (0xA0, 0xA0), (0x1680, 0x1680), (0x2000, 0x200A),
    (0x2028, 0x2029), (0x202F, 0x202F), (0x205F, 0x205F), (0x3000, 0x3000)]

def isBlank (char : Char) : Bool :=
  blankRanges.any fun (first, last) => first ≤ char.toNat && char.toNat ≤ last

/-- What is left of a text once its leading blanks are gone. -/
def skipBlanks (chars : List Char) : List Char :=
  chars.dropWhile isBlank

/-- A text with nothing in it but blanks. -/
def isBlankText (text : String) : Bool :=
  text.toList.all isBlank

end DepositLedger.Text
