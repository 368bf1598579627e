import DepositLedger.Proofs.Journal
import DepositLedger.Proofs.Names
import DepositLedger.Relational.Tables
import Mathlib.Data.List.Perm.Basic

/-! One book, kept in two ways. A book says who opened which account, which transactions
were posted, and when each was recorded. A ledger in memory keeps it without the times of
recording; tables keep it with names as text, and with a position for each line. -/

namespace DepositLedger

open Memory Relational

/-- Rows that come back in another order are rows of the same things in another order. -/
theorem exists_of_perm_map {α β : Type} {row : α → β} {rows : List β} {things : List α}
    (perm : rows.Perm (things.map row)) :
    ∃ sorted : List α, rows = sorted.map row ∧ sorted.Perm things :=
  (congrFun₂ (List.eq_map_comp_perm row) rows things).mpr perm

/-- An account as it was opened for a customer. -/
structure Holding where
  customerId : CustomerId
  account : Account
deriving DecidableEq

namespace Holding

variable (holding : Holding)

def stored : Account := holding.account.stored holding.customerId

def row : AccountRow := .ofAccount holding.customerId holding.account

theorem read_row : holding.row.read = .ok holding.stored := by
  simp only [row, AccountRow.read, AccountRow.ofAccount, AccountStatus.read_name,
    AccountType.read_name, stored, Account.stored]

end Holding

/-! ## Positions -/

/-- How many positions there are, from 0 to the last one. -/
def positionCount : Nat := 0x80000000

/-- The position of the line that so many lines were written before. -/
def positionAfter : Nat → Int32
  | 0 => 0
  | written + 1 => nextPosition (positionAfter written)

private theorem toInt_nextPosition {position : Int32} (room : position.toInt + 1 < positionCount) :
    (nextPosition position).toInt = position.toInt + 1 := by
  have last : Int32.maxValue.toInt + 1 = positionCount := rfl
  have least := position.le_toInt
  have notLast : position ≠ Int32.maxValue := by
    rintro rfl
    omega
  have one : (1 : Int32).toInt = 1 := rfl
  rw [nextPosition, if_neg notLast, Int32.toInt_add, one]
  rw [positionCount] at room
  exact Int.bmod_eq_of_le (by omega) (by omega)

private theorem toInt_positionAfter {written : Nat} (room : written < positionCount) :
    (positionAfter written).toInt = written := by
  induction written with
  | zero => rfl
  | succ written induction =>
      have before := induction (by omega)
      rw [positionAfter, toInt_nextPosition (by omega), before]
      rfl

theorem positionAfter_lt {earlier later : Nat} (before : earlier < later)
    (room : later < positionCount) : positionAfter earlier < positionAfter later := by
  rw [Int32.lt_iff_toInt_lt, toInt_positionAfter (Nat.lt_trans before room),
    toInt_positionAfter room]
  exact Int.ofNat_lt.mpr before

/-- From the last position on, all lines have one position. -/
theorem positionAfter_eq_last {written : Nat} (full : positionCount - 1 ≤ written) :
    positionAfter written = Int32.maxValue := by
  induction full with
  | refl => exact Int32.toInt_inj.mp (toInt_positionAfter (by decide))
  | step _ induction => rw [positionAfter, induction, nextPosition, if_pos rfl]

/-- A posted line and its place in its transaction. -/
abbrev PlacedLine := PostedLine × Nat

namespace PlacedLine

def row (placed : PlacedLine) : LineRow where
  transactionId := placed.1.transactionId
  accountId := placed.1.line.accountId
  position := positionAfter placed.2
  purpose := placed.1.line.purpose.name
  amount := placed.1.line.amount

theorem read_row (placed : PlacedLine) : placed.row.read = .ok placed.1.line := by
  simp only [row, LineRow.read, Purpose.read_name]

end PlacedLine

/-- A transaction and when it was recorded. -/
structure Entry where
  transaction : Transaction
  recordedAt : Timestamp
deriving DecidableEq

namespace Entry

variable (entry : Entry)

def row : TransactionRow where
  id := entry.transaction.id
  timestamp := entry.transaction.timestamp
  recordedAt := entry.recordedAt

def placed : List PlacedLine := entry.transaction.kept.zipIdx

end Entry

structure Book where
  holdings : List Holding := []
  entries : List Entry := []
deriving DecidableEq

namespace Book

variable (book : Book)

def hold (holding : Holding) : Book := { book with holdings := book.holdings ++ [holding] }

def record (entry : Entry) : Book := { book with entries := book.entries ++ [entry] }

def journal : List Transaction := book.entries.map (·.transaction)

def placed : List PlacedLine := book.entries.flatMap Entry.placed

/-- The book kept in memory. -/
def ledger : Ledger where
  accounts := book.holdings.map Holding.stored
  headers := book.journal.map Transaction.header
  lines := book.journal.flatMap Transaction.kept

/-- The book kept in tables. -/
def tables : Tables where
  accounts := book.holdings.map Holding.row
  transactions := book.entries.map Entry.row
  lines := book.placed.map PlacedLine.row

theorem ledger_holds : book.ledger.Holds book.journal := ⟨rfl, rfl⟩

theorem ledger_record (entry : Entry) :
    (book.record entry).ledger = book.ledger.posted entry.transaction := by
  simp [record, ledger, journal, Ledger.posted, Transaction.header, Transaction.kept]

/-- The two ways of keeping lines agree line by line. -/
theorem lines_ledger : book.ledger.lines = book.placed.map Prod.fst := by
  rw [placed, List.map_flatMap, ledger, journal, List.flatMap_map]
  simp [Entry.placed]

/-- A book that was kept from the start, with times that tables can sort by and with no more
lines in a transaction than there are positions. -/
structure Kept : Prop where
  sound : book.ledger.Sound
  plain : ∀ entry ∈ book.entries, hasPlainYear entry.transaction.timestamp = true ∧
    hasPlainYear entry.recordedAt = true
  short : ∀ entry ∈ book.entries, entry.transaction.lines.length ≤ positionCount

end Book

end DepositLedger
