import DepositLedger.Text.Blank
import DepositLedger.Text.Digits
import DepositLedger.Timestamp

/-! The written form of a timestamp. It is printed in UTC and ends in `Z`; the
year has a sign outside 0 to 9999, and the fraction of a second has 0, 3, 6 or 9
digits, the fewest that show it in full. It is read from any offset, with one or
two digits in each part after the year, with blanks around the parts, and with
any number of digits in the fraction, of which nine count. -/

namespace DepositLedger.Timestamp

open DepositLedger.Text

/-- The year in four digits, or with a sign and at least four. -/
def yearText (year : Int) : List Char :=
  let count := year.natAbs
  let digits :=
    if count < 10000 then fixedDigits 10 4 count
    else if count < 100000 then fixedDigits 10 5 count
    else fixedDigits 10 6 count
  if year < 0 then '-' :: digits
  else if 9999 < year then '+' :: digits
  else digits

def fractionText (nanosecond : Nat) : List Char :=
  if nanosecond = 0 then []
  else if nanosecond % 1000000 = 0 then '.' :: fixedDigits 10 3 (nanosecond / 1000000)
  else if nanosecond % 1000 = 0 then '.' :: fixedDigits 10 6 (nanosecond / 1000)
  else '.' :: fixedDigits 10 9 nanosecond

def toChars (timestamp : Timestamp) : List Char :=
  yearText timestamp.date.year ++ '-' :: (fixedDigits 10 2 timestamp.date.month ++
    '-' :: (fixedDigits 10 2 timestamp.date.day ++ 'T' :: (fixedDigits 10 2 timestamp.hour ++
    ':' :: (fixedDigits 10 2 timestamp.minute ++ ':' :: (fixedDigits 10 2 timestamp.second ++
    (fractionText timestamp.nanosecond ++ ['Z']))))))

def toText (timestamp : Timestamp) : String := String.ofList timestamp.toChars

/-- Reads a number of at least one and at most so many digits. -/
def readNumber? (most : Nat) (chars : List Char) : Option (Nat × List Char) :=
  let digits := (chars.take most).takeWhile Char.isDigit
  if digits.isEmpty then none else some (decimalValue digits, chars.drop digits.length)

/-- Reads a mark that blanks may precede and follow. -/
def readMark? (mark : Char) (chars : List Char) : Option (List Char) :=
  match skipBlanks chars with
  | [] => none
  | first :: rest => if first = mark then some (skipBlanks rest) else none

/-- Reads a year: up to four digits, or a sign and any number of them. -/
def readYear? : List Char → Option (Int × List Char)
  | '-' :: rest => (readNumber? rest.length rest).map fun (count, rest) => (-(count : Int), rest)
  | '+' :: rest => (readNumber? rest.length rest).map fun (count, rest) => ((count : Int), rest)
  | chars => (readNumber? 4 chars).map fun (count, rest) => ((count : Int), rest)

def readDate? (chars : List Char) : Option (Date × List Char) := do
  let (year, chars) ← readYear? (skipBlanks chars)
  let (month, chars) ← readNumber? 2 (← readMark? '-' chars)
  let (day, chars) ← readNumber? 2 (← readMark? '-' chars)
  return (← Date.ofParts? year month day, chars)

def readDivider? : List Char → Option (List Char)
  | [] => none
  | first :: rest => if first ∈ ['T', 't', ' '] then some rest else none

/-- Reads a fraction of a second in nanoseconds; none is written for zero. -/
def readFraction? : List Char → Option (Nat × List Char)
  | '.' :: rest =>
    let digits := rest.takeWhile Char.isDigit
    if digits.isEmpty then none
    else some (decimalValue ((digits ++ List.replicate 9 '0').take 9), rest.dropWhile Char.isDigit)
  | chars => some (0, chars)

def readPair? : List Char → Option (Nat × List Char)
  | first :: second :: rest =>
    if first.isDigit && second.isDigit then some (decimalValue [first, second], rest) else none
  | _ => none

/-- Reads the hours and minutes of an offset, less than a day, as minutes. -/
def readOffsetSize? (chars : List Char) : Option (Nat × List Char) := do
  let (hours, chars) ← readPair? chars
  let (minutes, chars) ← readPair? (chars.dropWhile fun char => char = ':' || isBlank char)
  if hours < 24 ∧ minutes < 60 then some (hours * 60 + minutes, chars) else none

def readOffset? (chars : List Char) : Option (Int × List Char) :=
  if (chars.take 3).map Char.toLower = ['u', 't', 'c'] then some (0, chars.drop 3)
  else
    match chars with
    | [] => none
    | sign :: rest =>
      if sign = 'Z' ∨ sign = 'z' then some (0, rest)
      else if sign = '+' then
        (readOffsetSize? rest).map fun (size, rest) => ((size : Int), rest)
      else if sign = '-' ∨ sign = '\u2212' then
        (readOffsetSize? rest).map fun (size, rest) => (-(size : Int), rest)
      else none

/-- The time in UTC of a local date and time so many minutes ahead of it. -/
def ofLocal? (date : Date) (hour minute second nanosecond : Nat) (offset : Int) :
    Option Timestamp := do
  let moment ← ofParts? date hour minute second nanosecond
  let minutes : Int := (moment.hour * 60 + moment.minute : Nat) - offset
  if minutes < 0 then
    ofParts? (← date.previous?) ((minutes + 1440).toNat / 60) ((minutes + 1440).toNat % 60)
      second nanosecond
  else if minutes < 1440 then
    ofParts? date (minutes.toNat / 60) (minutes.toNat % 60) second nanosecond
  else
    ofParts? (← date.next?) ((minutes - 1440).toNat / 60) ((minutes - 1440).toNat % 60)
      second nanosecond

def ofChars? (chars : List Char) : Option Timestamp := do
  let (date, chars) ← readDate? chars
  let chars ← readDivider? chars
  let (hour, chars) ← readNumber? 2 (skipBlanks chars)
  let (minute, chars) ← readNumber? 2 (← readMark? ':' chars)
  let (second, chars) ← readNumber? 2 (← readMark? ':' chars)
  let (nanosecond, chars) ← readFraction? chars
  let (offset, chars) ← readOffset? (skipBlanks chars)
  if chars.all isBlank then ofLocal? date hour minute second nanosecond offset else none

def ofText? (text : String) : Option Timestamp := ofChars? text.toList

end DepositLedger.Timestamp
