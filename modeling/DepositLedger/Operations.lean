import DepositLedger.Posting

/-! What a backend offers to its users, and what can be built on any backend:
undoing a transaction and opening an account with money on it. -/

namespace DepositLedger

structure Operations (σ : Type) where
  /-- Succeeds if the backend can be reached. -/
  ping : Action σ LedgerFault Unit
  close : Action σ LedgerFault Unit
  addAccount : CustomerId → Account → Action σ LedgerFault Unit
  /-- The accounts with these identifiers, in this order, unknown ones left out. -/
  accounts : List AccountId → Action σ LedgerFault (List Account)
  accountsOfCustomer : CustomerId → Action σ LedgerFault (List Account)
  findAccount : String → String → AccountType → Action σ LedgerFault (Option Account)
  /-- Posts a transaction as a whole or not at all. -/
  post : Transaction → PostingOptions → (recordedAt : Timestamp) → Action σ LedgerFault Unit
  /-- The transactions with a line on an account, the latest first. -/
  history : AccountId → Action σ LedgerFault (List Transaction)
  transaction? : TransactionId → Action σ LedgerFault (Option Transaction)

/-- What the world around gives to a transaction that the ledger makes up itself. -/
structure Stamp where
  id : TransactionId
  timestamp : Timestamp
  recordedAt : Timestamp
deriving DecidableEq

namespace Operations

variable {σ : Type} (operations : Operations σ)

/-- Posts the transaction that undoes the one with this identifier, and answers
with it. -/
def reverse (id : TransactionId) (stamp : Stamp) : Action σ LedgerFault Transaction := do
  match ← operations.transaction? id with
  | none => Action.fail (.transactionNotFound id)
  | some posted =>
    let reversal := posted.reversal stamp.id stamp.timestamp
    operations.post reversal {} stamp.recordedAt
    pure reversal

/-- The transaction that brings the first money onto an account. -/
def openingDeposit (account : Account) (amount : Cents) (stamp : Stamp) : Transaction :=
  { id := stamp.id
    timestamp := stamp.timestamp
    lines := [{ purpose := .achCredit, amount, accountId := account.id }] }

/-- Stores an account, brings the first money onto it, and answers with the account
read back. If the deposit fails the account stays, without money. -/
def openWithDeposit (customerId : CustomerId) (account : Account) (amount : Cents)
    (stamp : Stamp) : Action σ LedgerFault Account := do
  operations.addAccount customerId account
  operations.post (openingDeposit account amount stamp) { initialDeposit := true }
    stamp.recordedAt
  match ← operations.accounts [account.id] with
  | found :: _ => pure found
  | [] => Action.fail (.accountNotFound account.id)

/-- The operations of a backend whose postings have no way to look accounts up. -/
def unattached : Operations σ :=
  { operations with
    post := fun _ _ _ =>
      Action.fail (.store (.database "account repository is not attached")) }

end Operations

end DepositLedger
