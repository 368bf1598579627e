import DepositLedger.Overdraft
import DepositLedger.Store

/-! Posting. A transaction is checked, its accounts are looked up, and then its
header and lines are written in one unit of work. Funds are checked line by line
against the balance inside the unit, so that each line sees the lines before it.
Whatever goes wrong, the unit is rolled back as a whole. -/

namespace DepositLedger

/-- The sole line of an initial deposit above this amount is not checked. -/
def uncheckedDeposit : Int := 100

/-- What all lines of one posting have in common. -/
structure PostingRules where
  transactionId : TransactionId
  options : PostingOptions
  /-- The initial deposit does not start with an ACH credit. -/
  wrongDeposit : Bool
  /-- The sole line of the posting is an initial deposit too large to need a check. -/
  skipsBalance : Bool
  /-- Funds are checked. -/
  checksFunds : Bool

namespace PostingRules

/-- The rules for a transaction, whose first line is known to be `first`. -/
def of (guard : OverdraftGuard) (transaction : Transaction) (options : PostingOptions)
    (accounts : List Account) (first : TransactionLine) : PostingRules :=
  { transactionId := transaction.id
    options
    wrongDeposit := options.initialDeposit && first.purpose != .achCredit
    skipsBalance :=
      options.initialDeposit && transaction.lines.length == 1 &&
        decide (uncheckedDeposit < first.amount.value)
    checksFunds :=
      !options.allowOverdraft && guard.checksFunds accounts transaction.lines }

/-- Writes a line. A line on an account that the transaction has a line on already
is told apart from other faults of the store. -/
def writeLine {σ υ : Type} (rules : PostingRules) (store : UnitStore σ υ)
    (line : TransactionLine) : Action (σ × υ) LedgerFault Unit :=
  (store.writeLine rules.transactionId line).mapError fun
    | .uniqueViolation _ => .duplicateLine rules.transactionId line.accountId
    | .database detail => .store (.database detail)

/-- Checks a line that has been written. The balance is added up even where funds
are not checked, so that no posting takes it out of range. -/
def checkLine {σ υ : Type} (rules : PostingRules) (store : UnitStore σ υ)
    (line : TransactionLine) : Action (σ × υ) LedgerFault Unit :=
  if rules.wrongDeposit then Action.fail (.initialDepositNotCredit rules.transactionId)
  else if rules.skipsBalance then pure ()
  else do
    let balance ← store.balanceOf line.accountId
    if rules.checksFunds && !isCovered balance line then
      Action.fail (.insufficientFunds line.accountId balance line.amount)
    else pure ()

/-- Writes lines in order and checks each before the next is written. -/
def writeLines {σ υ : Type} (rules : PostingRules) (store : UnitStore σ υ) :
    List TransactionLine → Action (σ × υ) LedgerFault Unit
  | [] => pure ()
  | line :: rest => do
    rules.writeLine store line
    rules.checkLine store line
    rules.writeLines store rest

end PostingRules

def writeTransaction {σ υ : Type} (store : UnitStore σ υ) (guard : OverdraftGuard)
    (transaction : Transaction) (options : PostingOptions) (accounts : List Account)
    (recordedAt : Timestamp) : Action (σ × υ) LedgerFault Unit := do
  (store.writeHeader transaction.id transaction.timestamp recordedAt).mapError LedgerFault.store
  match transaction.lines with
  | [] => Action.fail (.validation .noLines)
  | first :: _ =>
    (PostingRules.of guard transaction options accounts first).writeLines store transaction.lines

/-- Checks a transaction; an initial deposit need not add up to zero. -/
def Transaction.checkFor (transaction : Transaction) (options : PostingOptions) :
    Except ValidationFault Unit :=
  if options.initialDeposit then transaction.checkShape else transaction.check

/-- The first of `ids` that none of `accounts` has. -/
def firstMissing? (ids : List AccountId) (accounts : List Account) : Option AccountId :=
  ids.find? fun id => !accounts.any (·.id == id)

/-- Posts a transaction, or leaves the store as it was. `resolve` looks accounts up. -/
def postTransaction {σ υ : Type} (store : UnitStore σ υ) (guard : OverdraftGuard)
    (resolve : List AccountId → Action σ LedgerFault (List Account))
    (transaction : Transaction) (options : PostingOptions) (recordedAt : Timestamp) :
    Action σ LedgerFault Unit := do
  (Action.ofExcept (transaction.checkFor options)).mapError LedgerFault.validation
  let accounts ← resolve transaction.touchedAccounts
  match firstMissing? transaction.touchedAccounts accounts with
  | some missing => Action.fail (.accountNotFound missing)
  | none =>
    let opened ← store.begin.mapError LedgerFault.store
    let (outcome, written) ←
      (writeTransaction store guard transaction options accounts recordedAt).attemptWith opened
    match outcome with
    | .ok () => (store.commit written).mapError LedgerFault.store
    | .error fault =>
      let _ ← (store.rollback written).attempt
      Action.fail fault

end DepositLedger
