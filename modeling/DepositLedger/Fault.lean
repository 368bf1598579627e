import DepositLedger.Validation

/-! What can go wrong on the ledger, and how it is told to a caller: a message, a
code, and a status of the web. A store reports less, a service reports in classes
of its own. -/

namespace DepositLedger

inductive StoreFault where
  /-- The write would store a second value under a key. -/
  | uniqueViolation (detail : String)
  | database (detail : String)
deriving DecidableEq

def StoreFault.message : StoreFault → String
  | uniqueViolation detail => "Unique constraint violated: " ++ detail
  | database detail => "Database error: " ++ detail

def StoreFault.kind : StoreFault → String
  | uniqueViolation _ => "UniqueViolation"
  | database _ => "Database"

inductive LedgerFault where
  | validation (fault : ValidationFault)
  | initialDepositNotCredit (transactionId : TransactionId)
  | duplicateLine (transactionId : TransactionId) (accountId : AccountId)
  | duplicateAccount (accountNumber routingNumber : String)
  | insufficientFunds (accountId : AccountId) (balance amount : Cents)
  | balanceOverflow (accountId : AccountId)
  | accountNotFound (accountId : AccountId)
  | transactionNotFound (transactionId : TransactionId)
  | store (fault : StoreFault)
deriving DecidableEq

/-- What a service built on the ledger reports, by class. -/
inductive ServiceFault where
  | notFound (text : String)
  | validation (text : String)
  | businessRule (text : String)
  | conflict (text : String)
  | database (text : String)
  | config (text : String)
deriving DecidableEq

namespace LedgerFault

def message : LedgerFault → String
  | validation fault => fault.message
  | initialDepositNotCredit transactionId =>
    s!"Initial deposit transaction {transactionId.toText} must be an ACH credit"
  | duplicateLine transactionId accountId =>
    s!"Transaction {transactionId.toText} has more than one line for account {accountId.toText}"
  | duplicateAccount accountNumber routingNumber =>
    s!"Account {accountNumber} at routing number {routingNumber} already exists"
  | insufficientFunds accountId balance amount =>
    s!"Account {accountId.toText} has insufficient funds: " ++
      s!"balance {balance.value}, line amount {amount.value}"
  | balanceOverflow accountId => s!"Balance of account {accountId.toText} overflows"
  | accountNotFound accountId => s!"Account not found: {accountId.toText}"
  | transactionNotFound transactionId => s!"Transaction not found: {transactionId.toText}"
  | store fault => fault.message

/-- The name of the kind of error, which a fault below gives to what it is part of. -/
def kind : LedgerFault → String
  | validation fault => fault.kind
  | initialDepositNotCredit _ => "InitialDepositNotCredit"
  | duplicateLine _ _ => "DuplicateLine"
  | duplicateAccount _ _ => "DuplicateAccount"
  | insufficientFunds _ _ _ => "InsufficientFunds"
  | balanceOverflow _ => "BalanceOverflow"
  | accountNotFound _ => "AccountNotFound"
  | transactionNotFound _ => "TransactionNotFound"
  | store fault => fault.kind

def code : LedgerFault → String
  | validation (.unbalanced _ _) => "UNBALANCED_TRANSACTION"
  | validation _ => "VALIDATION_ERROR"
  | initialDepositNotCredit _ => "INITIAL_DEPOSIT_NOT_CREDIT"
  | duplicateLine _ _ => "DUPLICATE_LINE"
  | duplicateAccount _ _ => "DUPLICATE_ACCOUNT"
  | insufficientFunds _ _ _ => "INSUFFICIENT_FUNDS"
  | balanceOverflow _ => "BALANCE_OVERFLOW"
  | accountNotFound _ => "ACCOUNT_NOT_FOUND"
  | transactionNotFound _ => "TRANSACTION_NOT_FOUND"
  | store _ => "STORE_ERROR"

def status : LedgerFault → Nat
  | validation _ | initialDepositNotCredit _ => 400
  | accountNotFound _ | transactionNotFound _ => 404
  | duplicateLine _ _ | duplicateAccount _ _ => 409
  | insufficientFunds _ _ _ | balanceOverflow _ => 422
  | store _ => 500

/-- The class of the error, with its message as the text. -/
def toServiceFault (fault : LedgerFault) : ServiceFault :=
  match fault with
  | validation _ | initialDepositNotCredit _ => .validation fault.message
  | accountNotFound _ | transactionNotFound _ => .notFound fault.message
  | duplicateLine _ _ | duplicateAccount _ _ => .conflict fault.message
  | insufficientFunds _ _ _ | balanceOverflow _ => .businessRule fault.message
  | store _ => .database fault.message

end LedgerFault

namespace ServiceFault

def kind : ServiceFault → String
  | notFound _ => "NotFound"
  | validation _ => "Validation"
  | businessRule _ => "BusinessRule"
  | conflict _ => "Conflict"
  | database _ => "Database"
  | config _ => "Config"

def message : ServiceFault → String
  | notFound text => "Not found: " ++ text
  | validation text => "Validation error: " ++ text
  | businessRule text => "Business rule violation: " ++ text
  | conflict text => "Conflict: " ++ text
  | database text => "Database error: " ++ text
  | config text => "Configuration error: " ++ text

def code : ServiceFault → String
  | notFound _ => "NOT_FOUND"
  | validation _ => "VALIDATION_ERROR"
  | businessRule _ => "BUSINESS_RULE_VIOLATION"
  | conflict _ => "CONFLICT"
  | database _ => "DATABASE_ERROR"
  | config _ => "CONFIG_ERROR"

def status : ServiceFault → Nat
  | notFound _ => 404
  | validation _ => 400
  | businessRule _ => 422
  | conflict _ => 409
  | database _ | config _ => 500

end ServiceFault

end DepositLedger
