import DepositLedger.Balance
import DepositLedger.EntityId
import DepositLedger.Text.LetterCase
import DepositLedger.Timestamp

/-! Deposit accounts. -/

namespace DepositLedger

inductive AccountStatus where
  | opened
  | closed
deriving DecidableEq

namespace AccountStatus

/-- The name in storage and in messages. -/
def name : AccountStatus → String
  | opened => "open"
  | closed => "closed"

def declaredName : AccountStatus → String
  | opened => "Open"
  | closed => "Closed"

/-- The name in JSON: that of the declaration in small letters. -/
def tag (status : AccountStatus) : String := Text.lowerCase status.declaredName

/-- The status that a text in letters of either case stands for. -/
def ofName? (text : String) : Option AccountStatus :=
  match Text.lowerCase text with
  | "open" => some opened
  | "closed" => some closed
  | _ => none

end AccountStatus

inductive AccountType where
  | checking
  | savings
deriving DecidableEq

namespace AccountType

/-- The name in storage and in messages. -/
def name : AccountType → String
  | checking => "checking"
  | savings => "savings"

def declaredName : AccountType → String
  | checking => "Checking"
  | savings => "Savings"

/-- The name in JSON: that of the declaration in small letters. -/
def tag (accountType : AccountType) : String := Text.lowerCase accountType.declaredName

/-- The type that a text in letters of either case stands for. -/
def ofName? (text : String) : Option AccountType :=
  match Text.lowerCase text with
  | "checking" => some checking
  | "savings" => some savings
  | _ => none

end AccountType

structure Account where
  id : AccountId
  customerId : CustomerId
  name : String
  accountNumber : String
  routingNumber : String
  status : AccountStatus
  accountType : AccountType
  createdAt : Timestamp
  closedAt : Option Timestamp
  lastModified : Option Timestamp
  balance : Cents
  balanceAvailable : Cents
  balancePending : Cents
deriving DecidableEq

namespace Account

def showing (account : Account) (balance : AccountBalance) : Account :=
  { account with
    balance := balance.balance
    balanceAvailable := balance.available
    balancePending := balance.pending }

/-- The account as it is kept: under its owner, and with no balance of its own. -/
def stored (account : Account) (customerId : CustomerId) : Account :=
  { account with
    customerId
    balance := Cents.zero
    balanceAvailable := Cents.zero
    balancePending := Cents.zero }

end Account

structure OpenRequest where
  name : String
  accountType : String
  initialBalance : Cents
deriving DecidableEq

end DepositLedger
