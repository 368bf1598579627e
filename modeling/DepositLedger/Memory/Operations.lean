import DepositLedger.Memory.Ledger
import DepositLedger.Session

/-! What the ledger in memory offers to its users. -/

namespace DepositLedger.Memory

namespace Ledger

variable (ledger : Ledger)

/-- Adds an account. Its number at its bank is looked at first, then its identifier. -/
def addAccount (customerId : CustomerId) (account : Account) : Except LedgerFault Ledger :=
  if ledger.accounts.any fun other =>
      other.accountNumber == account.accountNumber &&
        other.routingNumber == account.routingNumber then
    .error (.duplicateAccount account.accountNumber account.routingNumber)
  else if ledger.accounts.any (·.id == account.id) then
    .error (.store (.uniqueViolation s!"accounts.account_id {account.id.toText}"))
  else .ok { ledger with accounts := ledger.accounts ++ [account.stored customerId] }

/-- What is reported of the committed money on an account, stored or not. -/
def reportedBalance (accountId : AccountId) : Except LedgerFault AccountBalance :=
  (settle accountId (movementsOf ledger.lines accountId)).map AccountBalance.settled

def readAccount (account : Account) : Except LedgerFault Account :=
  (ledger.reportedBalance account.id).map account.showing

def account? (id : AccountId) : Option Account := ledger.accounts.find? (·.id == id)

def accountsById (ids : List AccountId) : Except LedgerFault (List Account) :=
  (ids.filterMap ledger.account?).mapM ledger.readAccount

def accountsOfCustomer (customerId : CustomerId) : Except LedgerFault (List Account) :=
  (ledger.accounts.filter (·.customerId == customerId)).mapM ledger.readAccount

def findAccount (accountNumber routingNumber : String) (accountType : AccountType) :
    Except LedgerFault (Option Account) :=
  let found := ledger.accounts.find? fun account =>
    account.accountNumber == accountNumber && account.routingNumber == routingNumber &&
      account.accountType == accountType
  match found with
  | none => .ok none
  | some account => (ledger.readAccount account).map some

/-- The transaction with a committed header of this identifier, and its lines in
the order they were posted. -/
def transaction? (id : TransactionId) : Option Transaction :=
  (ledger.headers.find? (·.transactionId == id)).map fun header =>
    { id
      timestamp := header.timestamp
      lines := (ledger.lines.filter (·.transactionId == id)).map (·.line) }

/-- The transactions with a line on an account, the latest first. Of those of one
time, the one that was committed later comes first. -/
def history (accountId : AccountId) : List Transaction :=
  let ids :=
    ((ledger.lines.filter (·.line.accountId == accountId)).map (·.transactionId)).eraseDups
  (ids.filterMap ledger.transaction?).reverse.mergeSort fun first second =>
    second.timestamp ≤ first.timestamp

end Ledger

def operations (guard : OverdraftGuard) : Operations Ledger where
  ping := pure ()
  close := pure ()
  addAccount customerId account :=
    Action.alter fun ledger => ledger.addAccount customerId account
  accounts ids := Action.inspect fun ledger => ledger.accountsById ids
  accountsOfCustomer customerId := Action.inspect fun ledger => ledger.accountsOfCustomer customerId
  findAccount accountNumber routingNumber accountType :=
    Action.inspect fun ledger => ledger.findAccount accountNumber routingNumber accountType
  post := postTransaction store guard fun ids =>
    Action.inspect fun ledger => ledger.accountsById ids
  history accountId := Action.inspect fun ledger => .ok (ledger.history accountId)
  transaction? id := Action.inspect fun ledger => .ok (ledger.transaction? id)

/-- The ledger in memory, with any number of units of work open side by side. -/
def backend : Backend Ledger Staging where
  store
  operations
  exclusive := false

end DepositLedger.Memory
