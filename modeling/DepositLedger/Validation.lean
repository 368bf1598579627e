import DepositLedger.Account
import DepositLedger.Text.Blank
import DepositLedger.Text.Quoted
import DepositLedger.Transaction

/-! What a transaction or a request must be like before any account is looked
at. A check answers with the first fault it meets. -/

namespace DepositLedger

inductive LineFault where
  | emptyAccountId
  | zeroAmount
  | negativeAmount (amount : Cents)
deriving DecidableEq

inductive ValidationFault where
  | emptyTransactionId
  | noLines
  | zeroTimestamp
  | invalidLine (index : Nat) (reason : LineFault)
  | unbalanced (sum : Cents) (lines : Nat)
  | amountOverflow (lines : Nat)
  | unknownPurpose (text : String)
  | unknownAccountType (text : String)
  | unknownAccountStatus (text : String)
  | initialBalanceTooLow (balance : Cents)
  | missingName
deriving DecidableEq

def LineFault.message : LineFault → String
  | emptyAccountId => "account ID is empty"
  | zeroAmount => "amount is zero"
  | negativeAmount amount => s!"amount {amount.value} is negative"

def ValidationFault.message : ValidationFault → String
  | emptyTransactionId => "Transaction ID is empty"
  | noLines => "Transaction must have at least one line"
  | zeroTimestamp => "Transaction timestamp is zero"
  | invalidLine index reason => s!"Line {index} is invalid: {reason.message}"
  | unbalanced sum lines => s!"Transaction is unbalanced: {lines} lines sum to {sum.value}"
  | amountOverflow lines => s!"Transaction amounts overflow: {lines} lines cannot be summed"
  | unknownPurpose text => "Unknown purpose: " ++ Text.quote text
  | unknownAccountType text => "Unknown account type: " ++ Text.quote text
  | unknownAccountStatus text => "Unknown account status: " ++ Text.quote text
  | initialBalanceTooLow balance => s!"Invalid initial balance of {balance.value} USD cents"
  | missingName => "Account name is missing"

def LineFault.kind : LineFault → String
  | emptyAccountId => "EmptyAccountId"
  | zeroAmount => "ZeroAmount"
  | negativeAmount _ => "NegativeAmount"

def ValidationFault.kind : ValidationFault → String
  | emptyTransactionId => "EmptyTransactionId"
  | noLines => "NoLines"
  | zeroTimestamp => "ZeroTimestamp"
  | invalidLine _ _ => "InvalidLine"
  | unbalanced _ _ => "Unbalanced"
  | amountOverflow _ => "AmountOverflow"
  | unknownPurpose _ => "UnknownPurpose"
  | unknownAccountType _ => "UnknownAccountType"
  | unknownAccountStatus _ => "UnknownAccountStatus"
  | initialBalanceTooLow _ => "InitialBalanceTooLow"
  | missingName => "MissingName"

def Purpose.read (text : String) : Except ValidationFault Purpose :=
  match ofName? text with
  | some purpose => .ok purpose
  | none => .error (.unknownPurpose text)

def AccountType.read (text : String) : Except ValidationFault AccountType :=
  match ofName? text with
  | some accountType => .ok accountType
  | none => .error (.unknownAccountType text)

def AccountStatus.read (text : String) : Except ValidationFault AccountStatus :=
  match ofName? text with
  | some status => .ok status
  | none => .error (.unknownAccountStatus text)

/-- A line needs an account and an amount above zero. -/
def TransactionLine.check (line : TransactionLine) : Except LineFault Unit :=
  if line.accountId.isNil then .error .emptyAccountId
  else if line.amount.value = 0 then .error .zeroAmount
  else if line.amount.value < 0 then .error (.negativeAmount line.amount)
  else .ok ()

/-- Checks lines in order; the first has the given index. -/
def checkLines (index : Nat) : List TransactionLine → Except ValidationFault Unit
  | [] => .ok ()
  | line :: rest =>
    match line.check with
    | .error reason => .error (.invalidLine index reason)
    | .ok () => checkLines (index + 1) rest

namespace Transaction

/-- A transaction needs an identifier, lines, a time, and no faulty line. -/
def checkShape (transaction : Transaction) : Except ValidationFault Unit :=
  if transaction.id.isNil then .error .emptyTransactionId
  else if transaction.lines.isEmpty then .error .noLines
  else if transaction.timestamp = Timestamp.epoch then .error .zeroTimestamp
  else checkLines 0 transaction.lines

/-- Beyond its structure, a transaction must add up to zero. -/
def check (transaction : Transaction) : Except ValidationFault Unit :=
  match transaction.checkShape with
  | .error fault => .error fault
  | .ok () =>
    match transaction.total? with
    | none => .error (.amountOverflow transaction.lines.length)
    | some sum =>
      if sum.value = 0 then .ok ()
      else .error (.unbalanced sum transaction.lines.length)

end Transaction

/-- The least money to open an account with. -/
def leastInitialBalance : Int := 100

namespace OpenRequest

/-- A request needs enough money, a name that is not blank, and a known type of
account, which is the answer. -/
def check (request : OpenRequest) : Except ValidationFault AccountType :=
  if request.initialBalance.value < leastInitialBalance then
    .error (.initialBalanceTooLow request.initialBalance)
  else if Text.isBlankText request.name then .error .missingName
  else AccountType.read request.accountType

/-- The account that a request describes: open, new at the given time, and empty. -/
def toAccount (request : OpenRequest) (id : AccountId) (now : Timestamp)
    (customerId : CustomerId) (accountNumber routingNumber : String) :
    Except ValidationFault Account :=
  request.check.map fun accountType =>
    { id, customerId, name := request.name, accountNumber, routingNumber
      status := .opened, accountType, createdAt := now, closedAt := none
      lastModified := some now, balance := Cents.zero, balanceAvailable := Cents.zero
      balancePending := Cents.zero }

end OpenRequest

end DepositLedger
