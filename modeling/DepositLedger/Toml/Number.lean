import DepositLedger.Text.Digits
import DepositLedger.Text.Split

/-! Numbers of TOML. Single underscores may stand between digits. An integer is of the
signed 64-bit range. A real number is the double that is nearest to it. -/

namespace DepositLedger.Toml

inductive Number where
  | integer (value : Int)
  | real (value : Float)

namespace Number

/-- The digits of a number without the underscores between them. -/
def plainDigits? (isDigit : Char → Bool) (chars : List Char) : Option (List Char) :=
  let groups := Text.splitAt '_' chars
  if groups.all fun group => !group.isEmpty && group.all isDigit then some groups.flatten
  else none

/-- Whether a number is negative, and what comes after its sign. -/
def splitSign : List Char → Bool × List Char
  | '-' :: rest => (true, rest)
  | '+' :: rest => (false, rest)
  | chars => (false, chars)

/-- The digits of a whole number that has no zero too many at its front. -/
def wholeDigits? (chars : List Char) : Option (List Char) :=
  (plainDigits? Char.isDigit chars).bind fun digits =>
    if digits.head? == some '0' && digits.length != 1 then none else some digits

def integer? (negative : Bool) (size : Nat) : Option Number :=
  let value : Int := if negative then -size else size
  if -0x8000000000000000 ≤ value ∧ value < 0x8000000000000000 then some (.integer value)
  else none

/-- The double nearest to a decimal number. A number that is far too large or far too
small is told by its exponent alone. -/
def nearest? (negative : Bool) (digits : List Char) (exponent : Int) : Option Number :=
  let significand := Text.decimalValue digits
  let size? : Option Float :=
    if significand = 0 ∨ digits.length + exponent < -400 then some 0
    else if 400 < exponent then none
    else some (Float.ofScientific significand (decide (exponent < 0)) exponent.natAbs)
  size?.bind fun size =>
    if size.isInf then none else some (.real (if negative then -size else size))

def exponent? : List Char → Option Int
  | [] => some 0
  | 'e' :: rest | 'E' :: rest =>
    let (negative, rest) := splitSign rest
    (plainDigits? Char.isDigit rest).map fun digits =>
      let size : Int := Text.decimalValue digits
      if negative then -size else size
  | _ => none

/-- A character that may stand in a row of decimal digits. -/
def isPart (char : Char) : Bool := char.isDigit || char = '_'

/-- The fraction after the digits of a whole number, and what follows it. -/
def splitFraction? : List Char → Option (List Char × List Char)
  | '.' :: rest =>
    (plainDigits? Char.isDigit (rest.takeWhile isPart)).map fun digits =>
      (digits, rest.dropWhile isPart)
  | chars => some ([], chars)

def decimal? (negative : Bool) (chars : List Char) : Option Number :=
  (wholeDigits? (chars.takeWhile isPart)).bind fun whole =>
    match chars.dropWhile isPart with
    | [] => integer? negative (Text.decimalValue whole)
    | rest =>
      (splitFraction? rest).bind fun (fraction, rest) =>
        (exponent? rest).bind fun exponent =>
          nearest? negative (whole ++ fraction) (exponent - fraction.length)

def based? (base : Nat) (chars : List Char) : Option Number :=
  let isDigit (char : Char) : Bool := (Text.appendDigit? base 0 char).isSome
  (plainDigits? isDigit chars).bind fun digits =>
    (Text.digitsValue? base digits).bind (integer? false)

def ofChars? : List Char → Option Number
  | '0' :: 'x' :: rest => based? 16 rest
  | '0' :: 'o' :: rest => based? 8 rest
  | '0' :: 'b' :: rest => based? 2 rest
  | chars =>
    let (negative, rest) := splitSign chars
    if rest = ['i', 'n', 'f'] then some (.real (if negative then -1 / 0 else 1 / 0))
    else if rest = ['n', 'a', 'n'] then some (.real (0 / 0))
    else decimal? negative rest

end Number

end DepositLedger.Toml
