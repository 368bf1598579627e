import DepositLedger.Operations

/-! The ledger in memory: all that has been committed, in lists that only grow.
What is written in a unit of work is staged beside the ledger and published when
the unit is committed, where it is held once more against what others have
committed since it was staged. -/

namespace DepositLedger.Memory

structure Header where
  transactionId : TransactionId
  timestamp : Timestamp
deriving DecidableEq

structure PostedLine where
  transactionId : TransactionId
  line : TransactionLine
deriving DecidableEq

/-- All that has been committed, in the order it was. -/
structure Ledger where
  accounts : List Account := []
  headers : List Header := []
  lines : List PostedLine := []
deriving DecidableEq

/-- What one unit of work has written and not published. -/
structure Staging where
  headers : List Header := []
  lines : List PostedLine := []
deriving DecidableEq

def hasHeader (headers : List Header) (transactionId : TransactionId) : Bool :=
  headers.any (·.transactionId == transactionId)

def hasLine (lines : List PostedLine) (transactionId : TransactionId)
    (accountId : AccountId) : Bool :=
  lines.any fun posted =>
    posted.transactionId == transactionId && posted.line.accountId == accountId

/-- The movements that lines make on an account. -/
def movementsOf (lines : List PostedLine) (accountId : AccountId) : List Movement :=
  (lines.filter (·.line.accountId == accountId)).map (·.line.toMovement)

def headerTaken (transactionId : TransactionId) : StoreFault :=
  .uniqueViolation s!"transactions.transaction_id {transactionId.toText}"

def lineTaken (transactionId : TransactionId) (accountId : AccountId) : StoreFault :=
  .uniqueViolation s!"transaction_lines ({transactionId.toText}, {accountId.toText})"

namespace Staging

/-- Stages a header, unless the identifier is staged or committed already. -/
def stageHeader (staging : Staging) (ledger : Ledger) (transactionId : TransactionId)
    (timestamp : Timestamp) : Except StoreFault Staging :=
  if hasHeader staging.headers transactionId || hasHeader ledger.headers transactionId then
    .error (headerTaken transactionId)
  else .ok { staging with headers := staging.headers ++ [⟨transactionId, timestamp⟩] }

/-- Stages a line, unless the transaction has one on the account, staged or
committed. The line needs no header. -/
def stageLine (staging : Staging) (ledger : Ledger) (transactionId : TransactionId)
    (line : TransactionLine) : Except StoreFault Staging :=
  if hasLine staging.lines transactionId line.accountId ||
      hasLine ledger.lines transactionId line.accountId then
    .error (lineTaken transactionId line.accountId)
  else .ok { staging with lines := staging.lines ++ [⟨transactionId, line⟩] }

end Staging

namespace Ledger

/-- Publishes what is staged, unless a header or a line of it has been committed
by others meanwhile. -/
def commit (ledger : Ledger) (staging : Staging) : Except StoreFault Ledger :=
  match staging.headers.find? fun header => hasHeader ledger.headers header.transactionId with
  | some header => .error (headerTaken header.transactionId)
  | none =>
    match staging.lines.find? fun posted =>
        hasLine ledger.lines posted.transactionId posted.line.accountId with
    | some posted => .error (lineTaken posted.transactionId posted.line.accountId)
    | none =>
      .ok { ledger with
        headers := ledger.headers ++ staging.headers
        lines := ledger.lines ++ staging.lines }

end Ledger

/-- Units of work on a ledger in memory. When they were recorded is not kept. -/
def store : UnitStore Ledger Staging where
  begin := pure {}
  writeHeader transactionId timestamp _ := fun (ledger, staging) =>
    match staging.stageHeader ledger transactionId timestamp with
    | .ok staged => (.ok (), (ledger, staged))
    | .error fault => (.error fault, (ledger, staging))
  writeLine transactionId line := fun (ledger, staging) =>
    match staging.stageLine ledger transactionId line with
    | .ok staged => (.ok (), (ledger, staged))
    | .error fault => (.error fault, (ledger, staging))
  movements accountId :=
    Action.inspect fun (ledger, staging) =>
      .ok (movementsOf ledger.lines accountId ++ movementsOf staging.lines accountId)
  commit staging := Action.alter fun ledger => ledger.commit staging
  rollback _ := pure ()

end DepositLedger.Memory
