import DepositLedger.Operations
import DepositLedger.Relational.Engine

/-! A ledger in a database. Every operation reads in a transaction of its own, which is
dropped if the reading fails. -/

namespace DepositLedger.Relational

/-- A unit of work: an open transaction, and the position that its next line will take. -/
structure UnitOfWork (υ : Type) where
  opened : υ
  nextPosition : Int32 := 0
deriving DecidableEq

namespace Engine

variable {σ υ : Type} (engine : Engine σ υ)

/-- Reads in a transaction of its own. -/
def reading {α : Type} (read : υ → Except LedgerFault α) : Action σ LedgerFault α := do
  let opened ← engine.begin.mapError LedgerFault.store
  let answer ← Action.ofExcept (read opened)
  (engine.commit opened).mapError LedgerFault.store
  return answer

/-- The movements on an account, in the order that its lines are listed in. -/
def movements (accountId : AccountId) (opened : υ) : Except StoreFault (List Movement) := do
  let rows ← engine.linesOn accountId opened
  rows.mapM fun row => row.read.map (·.toMovement)

def balanceOf (accountId : AccountId) (opened : υ) : Except LedgerFault Cents :=
  if accountId.isNil then .ok Cents.zero
  else
    match engine.movements accountId opened with
    | .error fault => .error (.store fault)
    | .ok movements => settle accountId movements

/-- Reads accounts: all rows are read before any balance is added up. -/
def readAccounts (query : AccountQuery) (opened : υ) : Except LedgerFault (List Account) :=
  match engine.accounts query opened with
  | .error fault => .error (.store fault)
  | .ok rows =>
    match rows.mapM AccountRow.read with
    | .error fault => .error fault
    | .ok accounts =>
      accounts.mapM fun account =>
        (engine.balanceOf account.id opened).map fun balance =>
          account.showing (AccountBalance.settled balance)

/-- The accounts with these identifiers, in this order, unknown ones left out. No
identifiers are answered without asking the database. -/
def accountsById (ids : List AccountId) : Action σ LedgerFault (List Account) :=
  if ids.isEmpty then pure []
  else do
    let found ← engine.reading (engine.readAccounts (.withIds ids))
    return ids.filterMap fun id => found.find? (·.id == id)

def accountsOfCustomer (customerId : CustomerId) : Action σ LedgerFault (List Account) :=
  engine.reading (engine.readAccounts (.ofCustomer customerId))

/-- The account with this number and routing number whose type is stored under its
own name. -/
def accountNumbered (accountNumber routingNumber : String) (accountType : AccountType) :
    Action σ LedgerFault (Option Account) := do
  let found ← engine.reading
    (engine.readAccounts (.numbered accountNumber routingNumber accountType.name))
  return found.head?

/-- Transactions with these identifiers in the order of their rows, each with its lines in
the order of theirs. -/
def transactionsIn (ids : List TransactionId) (opened : υ) :
    Except LedgerFault (List Transaction) :=
  if ids.isEmpty then .ok []
  else
    match engine.transactions ids opened with
    | .error fault => .error (.store fault)
    | .ok headers =>
      match engine.lines ids opened with
      | .error fault => .error (.store fault)
      | .ok rows =>
        match rows.mapM fun row => row.read.map fun line => (row.transactionId, line) with
        | .error fault => .error (.store fault)
        | .ok lines =>
          .ok <| headers.map fun header =>
            { id := header.id
              timestamp := header.timestamp
              lines := (lines.filter (·.1 == header.id)).map (·.2) }

def transaction? (id : TransactionId) : Action σ LedgerFault (Option Transaction) := do
  let found ← engine.reading (engine.transactionsIn [id])
  return found.head?

def history (accountId : AccountId) : Action σ LedgerFault (List Transaction) :=
  engine.reading fun opened =>
    match engine.transactionsOn accountId opened with
    | .error fault => .error (.store fault)
    | .ok ids => engine.transactionsIn ids opened

/-- Stores an account. If a constraint refuses it and a live account has its number
at its bank, it is a duplicate of that. -/
def addAccount (customerId : CustomerId) (account : Account) : Action σ LedgerFault Unit :=
  fun database =>
    match engine.insertAccount (AccountRow.ofAccount customerId account) database with
    | (.ok (), database) => (.ok (), database)
    | (.error (.database detail), database) => (.error (.store (.database detail)), database)
    | (.error (.uniqueViolation detail), database) =>
      match engine.findAccount account.accountNumber account.routingNumber database with
      | .error fault => (.error (.store fault), database)
      | .ok (some _) =>
        (.error (.duplicateAccount account.accountNumber account.routingNumber), database)
      | .ok none => (.error (.store (.uniqueViolation detail)), database)

def store : UnitStore σ (UnitOfWork υ) where
  begin := fun database =>
    match engine.begin database with
    | (.ok opened, database) => (.ok { opened }, database)
    | (.error fault, database) => (.error fault, database)
  writeHeader transactionId timestamp recordedAt := fun (database, work) =>
    match engine.insertTransaction { id := transactionId, timestamp, recordedAt } work.opened with
    | (outcome, opened) => (outcome, (database, { work with opened }))
  writeLine transactionId line := fun (database, work) =>
    let row : LineRow :=
      { transactionId, accountId := line.accountId, position := work.nextPosition
        purpose := line.purpose.name, amount := line.amount }
    match engine.insertLine row work.opened with
    | (.ok (), opened) =>
      (.ok (), (database, { opened, nextPosition := Relational.nextPosition work.nextPosition }))
    | (.error fault, opened) => (.error fault, (database, { work with opened }))
  movements accountId := Action.inspect fun (_, work) => engine.movements accountId work.opened
  commit work := engine.commit work.opened
  rollback work := engine.rollback work.opened

def operations (guard : OverdraftGuard) : Operations σ where
  ping := (Action.inspect engine.ping).mapError LedgerFault.store
  close := engine.close.mapError LedgerFault.store
  addAccount := engine.addAccount
  accounts := engine.accountsById
  accountsOfCustomer := engine.accountsOfCustomer
  findAccount := engine.accountNumbered
  post := postTransaction engine.store guard engine.accountsById
  history := engine.history
  transaction? := engine.transaction?

end Engine

end DepositLedger.Relational
