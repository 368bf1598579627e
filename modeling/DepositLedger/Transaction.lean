import DepositLedger.EntityId
import DepositLedger.Purpose
import DepositLedger.Timestamp

/-! Transactions: lines that are posted together or not at all. -/

namespace DepositLedger

/-- One leg of a transaction: a movement on an account. -/
structure TransactionLine extends Movement where
  accountId : AccountId
deriving DecidableEq

structure Transaction where
  id : TransactionId
  timestamp : Timestamp
  lines : List TransactionLine
deriving DecidableEq

/-- What whoever posts a transaction may ask for. -/
structure PostingOptions where
  /-- Post even if an account is overdrawn by it. -/
  allowOverdraft : Bool := false
  /-- Bring money in: the lines need not add up to zero. -/
  initialDeposit : Bool := false
deriving DecidableEq

namespace Transaction

/-- The accounts of the lines, each once, in the order they are first named in. -/
def touchedAccounts (transaction : Transaction) : List AccountId :=
  (transaction.lines.map (·.accountId)).eraseDups

/-- The signed amounts added up, line by line, if every sum on the way is in range. -/
def total? (transaction : Transaction) : Option Cents :=
  transaction.lines.foldlM
    (fun sum line => line.effect?.bind sum.add?) Cents.zero

/-- The transaction that undoes this one, under an identifier and a time of its
own: every line keeps its account and amount, and takes the opposite purpose. -/
def reversal (transaction : Transaction) (id : TransactionId) (timestamp : Timestamp) :
    Transaction :=
  { id, timestamp,
    lines := transaction.lines.map fun line => { line with purpose := line.purpose.opposite } }

end Transaction

end DepositLedger
