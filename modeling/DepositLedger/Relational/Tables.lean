import DepositLedger.Relational.Engine
import DepositLedger.Timestamp.Text

/-! Tables that keep their rows in lists. Account identifiers, account numbers at a bank,
transaction identifiers and the accounts of one transaction are unique, and a line needs a
row of its transaction. -/

namespace DepositLedger.Relational

def constraintFailed (columns : String) : StoreFault :=
  .uniqueViolation s!"UNIQUE constraint failed: {columns}"

/-- A line that names no transaction. -/
def unknownTransaction : StoreFault :=
  .database
    ("Execution Error: error returned from database: (code: 787) " ++
      "FOREIGN KEY constraint failed")

/-- Years 0 to 9999, which a timestamp column writes without a sign. -/
def hasPlainYear (timestamp : Timestamp) : Bool :=
  0 ≤ timestamp.date.year && timestamp.date.year ≤ 9999

/-- The order of a timestamp column, which is that of its text. For years 0 to 9999
that is time order; signed years have their places by the text alone, where the mark
of the zone is no part of what is compared. -/
def columnLe (first second : Timestamp) : Bool :=
  if hasPlainYear first && hasPlainYear second then first ≤ second
  else
    !(second.toChars.dropLast.lex first.toChars.dropLast fun char other =>
      char.toNat < other.toNat)

/-- Lines by their positions, those of one position by transaction and account. -/
def LineRow.inOrder (first second : LineRow) : Bool :=
  if first.position = second.position then
    if first.transactionId = second.transactionId then
      first.accountId.uuid ≤ second.accountId.uuid
    else first.transactionId.uuid ≤ second.transactionId.uuid
  else first.position ≤ second.position

namespace Tables

variable (tables : Tables)

/-- Inserts an account. Of two failed constraints the one on the number is named. -/
def insertAccount (row : AccountRow) : Except StoreFault Tables :=
  if tables.accounts.any fun other =>
      other.accountNumber == row.accountNumber && other.routingNumber == row.routingNumber then
    .error (constraintFailed "accounts.account_number, accounts.routing_number")
  else if tables.accounts.any (·.id == row.id) then
    .error (constraintFailed "accounts.account_id")
  else .ok { tables with accounts := tables.accounts ++ [row] }

def insertTransaction (row : TransactionRow) : Except StoreFault Tables :=
  if tables.transactions.any (·.id == row.id) then
    .error (constraintFailed "transactions.transaction_id")
  else .ok { tables with transactions := tables.transactions ++ [row] }

def insertLine (row : LineRow) : Except StoreFault Tables :=
  if tables.lines.any fun other =>
      other.transactionId == row.transactionId && other.accountId == row.accountId then
    .error
      (constraintFailed "transaction_lines.transaction_id, transaction_lines.account_id")
  else if tables.transactions.any (·.id == row.transactionId) then
    .ok { tables with lines := tables.lines ++ [row] }
  else .error unknownTransaction

/-- The accounts that meet a condition, those created first first. Of those of one time
the ones that were asked for by their identifiers come in the order of these. -/
def accountsMeeting (query : AccountQuery) : List AccountRow :=
  let rows := tables.accounts.filter query.meets
  let listed :=
    match query with
    | .withIds _ => rows.mergeSort fun first second => first.id.uuid ≤ second.id.uuid
    | .ofCustomer _ | .numbered _ _ _ => rows
  listed.mergeSort fun first second => columnLe first.createdAt second.createdAt

/-- The transactions with these identifiers, the latest first. -/
def transactionsWithIds (ids : List TransactionId) : List TransactionRow :=
  let latestFirst (first second : TransactionRow) : Bool :=
    if first.timestamp = second.timestamp then columnLe second.recordedAt first.recordedAt
    else columnLe second.timestamp first.timestamp
  (tables.transactions.filter fun row => !row.deleted && ids.contains row.id).mergeSort latestFirst

def linesOfTransactions (ids : List TransactionId) : List LineRow :=
  (tables.lines.filter fun row =>
    !row.deleted && ids.contains row.transactionId).mergeSort LineRow.inOrder

def linesOnAccount (accountId : AccountId) : List LineRow :=
  tables.lines.filter fun row => !row.deleted && row.accountId == accountId

end Tables

end DepositLedger.Relational
