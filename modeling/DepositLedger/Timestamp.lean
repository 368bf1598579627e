/-! Points in time: a date of the Gregorian calendar and a time of day in UTC,
down to the nanosecond. A leap second is second 60 of its minute. Every value
is a date and a time that exist. -/

namespace DepositLedger

def isLeapYear (year : Int) : Bool :=
  year % 4 = 0 && (year % 100 ≠ 0 || year % 400 = 0)

def daysInMonth (year : Int) (month : Nat) : Nat :=
  match month with
  | 2 => if isLeapYear year then 29 else 28
  | 4 | 6 | 9 | 11 => 30
  | _ => 31

structure Date where
  year : Int
  month : Nat
  day : Nat
  exists_in_calendar :
    -262143 ≤ year ∧ year ≤ 262142 ∧ 1 ≤ month ∧ month ≤ 12 ∧
      1 ≤ day ∧ day ≤ daysInMonth year month
deriving DecidableEq

namespace Date

/-- The date with these parts, if there is one. -/
def ofParts? (year : Int) (month day : Nat) : Option Date :=
  if real : -262143 ≤ year ∧ year ≤ 262142 ∧ 1 ≤ month ∧ month ≤ 12 ∧
      1 ≤ day ∧ day ≤ daysInMonth year month then
    some ⟨year, month, day, real⟩
  else none

/-- The day after; the last day of the calendar has none. -/
def next? (date : Date) : Option Date :=
  if date.day < daysInMonth date.year date.month then
    ofParts? date.year date.month (date.day + 1)
  else if date.month < 12 then ofParts? date.year (date.month + 1) 1
  else ofParts? (date.year + 1) 1 1

/-- The day before; the first day of the calendar has none. -/
def previous? (date : Date) : Option Date :=
  if 1 < date.day then ofParts? date.year date.month (date.day - 1)
  else if 1 < date.month then
    ofParts? date.year (date.month - 1) (daysInMonth date.year (date.month - 1))
  else ofParts? (date.year - 1) 12 31

theorem ofParts?_self (date : Date) :
    ofParts? date.year date.month date.day = some date := by
  exact dif_pos date.exists_in_calendar

end Date

structure Timestamp where
  date : Date
  hour : Nat
  minute : Nat
  second : Nat
  nanosecond : Nat
  exists_in_day : hour < 24 ∧ minute < 60 ∧ second ≤ 60 ∧ nanosecond < 1000000000
deriving DecidableEq

namespace Timestamp

/-- The point in time with these parts, if there is one. -/
def ofParts? (date : Date) (hour minute second nanosecond : Nat) : Option Timestamp :=
  if real : hour < 24 ∧ minute < 60 ∧ second ≤ 60 ∧ nanosecond < 1000000000 then
    some ⟨date, hour, minute, second, nanosecond, real⟩
  else none

/-- The start of 1970, which stands for the absence of a time. -/
def epoch : Timestamp := ⟨⟨1970, 1, 1, by decide⟩, 0, 0, 0, 0, by decide⟩

/-- The start of 2050 and so many microseconds. -/
def microsecondsInto2050 (count : Nat) : Timestamp :=
  ⟨⟨2050, 1, 1, by decide⟩, count / 3600000000 % 24, count / 60000000 % 60,
    count / 1000000 % 60, count % 1000000 * 1000, by omega⟩

/-- A number that grows with time: the parts of the timestamp as its digits. -/
def ordinal (timestamp : Timestamp) : Int :=
  (((((timestamp.date.year * 13 + timestamp.date.month) * 32 + timestamp.date.day) * 24 +
    timestamp.hour) * 60 + timestamp.minute) * 61 + timestamp.second) * 1000000000 +
    timestamp.nanosecond

/-- Time order. -/
instance : LE Timestamp := ⟨fun first second => first.ordinal ≤ second.ordinal⟩

instance (first second : Timestamp) : Decidable (first ≤ second) :=
  inferInstanceAs (Decidable (first.ordinal ≤ second.ordinal))

theorem ofParts?_self (timestamp : Timestamp) :
    ofParts? timestamp.date timestamp.hour timestamp.minute timestamp.second
      timestamp.nanosecond = some timestamp := by
  exact dif_pos timestamp.exists_in_day

end Timestamp

end DepositLedger
