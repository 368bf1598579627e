import DepositLedger.Action
import DepositLedger.Relational.Rows

/-! What is asked of a database: rows are inserted, and rows that meet a condition are
listed. Which rows clash and in which order rows are listed is the business of the
database. -/

namespace DepositLedger.Relational

/-- A condition on rows of accounts. -/
inductive AccountQuery where
  | withIds (ids : List AccountId)
  | ofCustomer (customerId : CustomerId)
  | numbered (accountNumber routingNumber accountType : String)

/-- Rows that are marked as deleted meet no condition. -/
def AccountQuery.meets (row : AccountRow) : AccountQuery → Bool
  | withIds ids => !row.deleted && ids.contains row.id
  | ofCustomer customerId => !row.deleted && row.customerId == customerId
  | numbered accountNumber routingNumber accountType =>
    !row.deleted && row.accountNumber == accountNumber && row.routingNumber == routingNumber &&
      row.accountType == accountType

/-- A database with states of type `σ`. A transaction that is open on it is a value of type
`υ`, and what is written in it is seen by what is read in it. -/
structure Engine (σ υ : Type) where
  ping : σ → Except StoreFault Unit
  close : Action σ StoreFault Unit
  begin : Action σ StoreFault υ
  commit : υ → Action σ StoreFault Unit
  rollback : υ → Action σ StoreFault Unit
  insertAccount : AccountRow → Action σ StoreFault Unit
  /-- A row of an account of this number at this bank that is not deleted. -/
  findAccount : (accountNumber routingNumber : String) → σ → Except StoreFault (Option AccountRow)
  insertTransaction : TransactionRow → Action υ StoreFault Unit
  insertLine : LineRow → Action υ StoreFault Unit
  /-- The accounts that were created first come first. -/
  accounts : AccountQuery → υ → Except StoreFault (List AccountRow)
  /-- The latest first and, of those of one time, the one that was recorded last first. -/
  transactions : List TransactionId → υ → Except StoreFault (List TransactionRow)
  /-- The lines of transactions in the order of their positions. -/
  lines : List TransactionId → υ → Except StoreFault (List LineRow)
  /-- The lines on an account, in no order that is asked for. -/
  linesOn : AccountId → υ → Except StoreFault (List LineRow)
  /-- The transactions with a line on an account, each of them once. -/
  transactionsOn : AccountId → υ → Except StoreFault (List TransactionId)

end DepositLedger.Relational
