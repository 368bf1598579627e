import DepositLedger.Fault

/-! Rows of the tables that a ledger is kept in. Names of purposes, types and statuses are
kept as text and read again with each row. A row that is marked as deleted is not read by
any query, but keeps its place under the constraints. -/

namespace DepositLedger.Relational

structure AccountRow where
  id : AccountId
  customerId : CustomerId
  name : String
  accountNumber : String
  routingNumber : String
  status : String
  accountType : String
  createdAt : Timestamp
  closedAt : Option Timestamp
  lastModified : Option Timestamp
  deleted : Bool := false
deriving DecidableEq

structure TransactionRow where
  id : TransactionId
  timestamp : Timestamp
  recordedAt : Timestamp
  deleted : Bool := false
deriving DecidableEq

structure LineRow where
  transactionId : TransactionId
  accountId : AccountId
  /-- The place of the line among those written in its unit of work. -/
  position : Int32
  purpose : String
  amount : Cents
  deleted : Bool := false
deriving DecidableEq

/-- The rows of each table in the order they were inserted. -/
structure Tables where
  accounts : List AccountRow := []
  transactions : List TransactionRow := []
  lines : List LineRow := []
deriving DecidableEq

/-- A stored account with the rest of its text read, the status before the type. -/
def AccountRow.read (row : AccountRow) : Except LedgerFault Account :=
  match AccountStatus.read row.status with
  | .error fault => .error (.store (.database s!"stored account: {fault.message}"))
  | .ok status =>
    match AccountType.read row.accountType with
    | .error fault => .error (.store (.database s!"stored account: {fault.message}"))
    | .ok accountType =>
      .ok
        { id := row.id, customerId := row.customerId, name := row.name
          accountNumber := row.accountNumber, routingNumber := row.routingNumber
          status, accountType, createdAt := row.createdAt, closedAt := row.closedAt
          lastModified := row.lastModified, balance := Cents.zero
          balanceAvailable := Cents.zero, balancePending := Cents.zero }

/-- The row that an account of a customer is stored in. -/
def AccountRow.ofAccount (customerId : CustomerId) (account : Account) : AccountRow :=
  { id := account.id, customerId, name := account.name
    accountNumber := account.accountNumber, routingNumber := account.routingNumber
    status := account.status.name, accountType := account.accountType.name
    createdAt := account.createdAt, closedAt := account.closedAt
    lastModified := account.lastModified }

def LineRow.read (row : LineRow) : Except StoreFault TransactionLine :=
  match Purpose.read row.purpose with
  | .error fault => .error (.database s!"stored line: {fault.message}")
  | .ok purpose => .ok { purpose, amount := row.amount, accountId := row.accountId }

/-- The position after a given one. The last one is followed by itself. -/
def nextPosition (position : Int32) : Int32 :=
  if position = Int32.maxValue then position else position + 1

end DepositLedger.Relational
