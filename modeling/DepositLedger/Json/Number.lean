import DepositLedger.Json
import DepositLedger.Text.Digits

/-! Numbers of JSON texts. One without a fraction and an exponent is an integer if it is
of 64 bits, signed or not. Other numbers, integers beyond these and a negative zero are
held in a double. It is made of as many digits as 64 bits hold and is then scaled by a
power of ten, so that it need not be the double nearest to the number. A number too large
for a double is refused. -/

namespace DepositLedger.Json

open DepositLedger.Text

/-- Reads what may follow the digits of an integer: a fraction. The answer is its
digits, none where there is no fraction. -/
def readFraction? : List Char → Option (List Char × List Char)
  | '.' :: rest =>
    let digits := rest.takeWhile Char.isDigit
    if digits.isEmpty then none else some (digits, rest.dropWhile Char.isDigit)
  | chars => some ([], chars)

def readExponentValue? (chars : List Char) : Option (Int × List Char) :=
  let (negative, rest) :=
    match chars with
    | '-' :: rest => (true, rest)
    | '+' :: rest => (false, rest)
    | _ => (false, chars)
  let digits := rest.takeWhile Char.isDigit
  let size : Int := decimalValue digits
  if digits.isEmpty then none
  else some (if negative then -size else size, rest.dropWhile Char.isDigit)

/-- Reads an exponent, if there is one. -/
def readExponent? : List Char → Option (Option Int × List Char)
  | 'e' :: rest | 'E' :: rest =>
    (readExponentValue? rest).map fun (exponent, rest) => (some exponent, rest)
  | chars => some (none, chars)

/-- Appends digits to a number as long as it stays below 2^64. The answer is the number
and the digits that are left. -/
def takeDigits (number : Nat) : List Char → Nat × List Char
  | [] => (number, [])
  | digit :: rest =>
    let next := number * 10 + (digit.toNat - 48)
    if next < 0x10000000000000000 then takeDigits next rest else (number, digit :: rest)

/-- A power of ten, of an exponent up to 308. -/
def powerOfTen (exponent : Nat) : Float := Float.ofScientific 1 false exponent

/-- The size of `significand` times a power of ten, rounded at every step. There is none
if it is too large for a double. -/
def scale? (significand : Nat) (exponent : Int) : Option Float :=
  let start := Float.ofNat significand
  match exponent with
  | .ofNat exponent =>
    if significand = 0 then some start
    else if 308 < exponent then none
    else
      let scaled := start * powerOfTen exponent
      if scaled.isInf then none else some scaled
  | .negSucc before =>
    let exponent := before + 1
    if exponent ≤ 308 then some (start / powerOfTen exponent)
    else if exponent ≤ 616 then some (start / powerOfTen 308 / powerOfTen (exponent - 308))
    else some 0

/-- The number that the digits of an integer, of a fraction and an exponent stand for. -/
def ofDigits? (negative : Bool) (whole fraction : List Char) (exponent : Option Int) :
    Option Json :=
  let (size, left) := takeDigits 0 whole
  let isInteger :=
    fraction.isEmpty && exponent.isNone && left.isEmpty &&
      !(negative && (size == 0 || 0x8000000000000000 < size))
  if isInteger then some (integer (if negative then -size else size))
  else
    let (significand, dropped) := takeDigits size fraction
    let shift : Int := left.length - (fraction.length - dropped.length : Nat)
    (scale? significand (shift + exponent.getD 0)).map fun value =>
      real (if negative then -value else value)

/-- Reads the digits of a number that follow its sign, if it has one. -/
def readDigits? (negative : Bool) (chars : List Char) : Option (Json × List Char) :=
  let whole := chars.takeWhile Char.isDigit
  if whole.isEmpty || (whole.head? == some '0' && 1 < whole.length) then none
  else
    (readFraction? (chars.dropWhile Char.isDigit)).bind fun (fraction, rest) =>
      (readExponent? rest).bind fun (exponent, rest) =>
        (ofDigits? negative whole fraction exponent).map fun number => (number, rest)

def readNumber? : List Char → Option (Json × List Char)
  | '-' :: rest => readDigits? true rest
  | chars => readDigits? false chars

end DepositLedger.Json
