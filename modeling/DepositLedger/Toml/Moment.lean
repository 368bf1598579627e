import DepositLedger.Text.Digits
import DepositLedger.Timestamp

/-! Dates and times of TOML: a date, a time of day with or without seconds, or both with or
without an offset from UTC. They are kept as texts of one form, whichever form they were
written in. -/

namespace DepositLedger.Toml.Moment

open DepositLedger.Text

def readNumber? (width : Nat) (chars : List Char) : Option (Nat × List Char) :=
  let digits := chars.take width
  if digits.length = width ∧ digits.all Char.isDigit then
    some (decimalValue digits, chars.drop width)
  else none

def readMark? (mark : Char) : List Char → Option (List Char)
  | first :: rest => if first = mark then some rest else none
  | [] => none

def readDate? (chars : List Char) : Option (List Char × List Char) := do
  let (year, rest) ← readNumber? 4 chars
  let (month, rest) ← readNumber? 2 (← readMark? '-' rest)
  let (day, rest) ← readNumber? 2 (← readMark? '-' rest)
  let _ ← Date.ofParts? year month day
  return (chars.take 10, rest)

/-- Reads a fraction of a second, if there is one. The answer is its text: nine digits at
most, without the zeros at its end, except that the first digit always stays. -/
def readFraction? : List Char → Option (List Char × List Char)
  | '.' :: rest =>
    match (rest.takeWhile Char.isDigit).take 9 with
    | [] => none
    | first :: more =>
      let shown := (more.reverse.dropWhile (· = '0')).reverse
      some ('.' :: first :: shown, rest.dropWhile Char.isDigit)
  | chars => some ([], chars)

/-- Reads the seconds of a time, if there are any. The answer is their text. -/
def readSeconds? : List Char → Option (List Char × List Char)
  | ':' :: chars => do
    let (second, rest) ← readNumber? 2 chars
    let (fraction, rest) ← readFraction? rest
    if second ≤ 60 then return (':' :: (chars.take 2 ++ fraction), rest) else none
  | chars => some ([], chars)

/-- Reads a time of day. The answer is its text. -/
def readTime? (chars : List Char) : Option (List Char × List Char) := do
  let (hour, rest) ← readNumber? 2 chars
  let (minute, rest) ← readNumber? 2 (← readMark? ':' rest)
  let (seconds, rest) ← readSeconds? rest
  if hour < 24 ∧ minute < 60 then return (chars.take 5 ++ seconds, rest) else none

/-- Reads an offset from UTC, if there is one. The answer is its text, where an offset of
nothing is positive. -/
def readOffset? : List Char → Option (List Char)
  | [] => some []
  | ['Z'] | ['z'] => some ['Z']
  | sign :: rest => do
    let (hours, after) ← readNumber? 2 rest
    let (minutes, after) ← readNumber? 2 (← readMark? ':' after)
    if (sign = '+' ∨ sign = '-') ∧ hours < 24 ∧ minutes < 60 ∧ after = [] then
      return (if hours = 0 ∧ minutes = 0 then '+' else sign) :: rest
    else none

def isDivider (char : Char) : Bool := char = 'T' || char = 't' || char = ' '

/-- The text that a date, a time or both are kept as. -/
def ofChars? (chars : List Char) : Option String :=
  match readDate? chars with
  | some (date, []) => some (String.ofList date)
  | some (date, divider :: rest) => do
    let (time, rest) ← readTime? rest
    let offset ← readOffset? rest
    if isDivider divider then return String.ofList (date ++ 'T' :: (time ++ offset)) else none
  | none =>
    match readTime? chars with
    | some (time, []) => some (String.ofList time)
    | _ => none

end DepositLedger.Toml.Moment
