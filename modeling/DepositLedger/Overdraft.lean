import DepositLedger.Account
import DepositLedger.Transaction

/-! Overdrafts. The ledger guards the accounts it holds itself, which are the
ones with its own routing number. A debit of another bank's account is settled
by that bank, which sends it back if the money is not there. -/

namespace DepositLedger

structure OverdraftGuard where
  routingNumber : String
deriving DecidableEq

namespace OverdraftGuard

def protects (guard : OverdraftGuard) (account : Account) : Bool :=
  account.routingNumber == guard.routingNumber

/-- The account of the first ACH debit on a known account. -/
def debitedAccount? (accounts : List Account) (lines : List TransactionLine) : Option Account :=
  (lines.filter (·.purpose == .achDebit)).findSome? fun line =>
    accounts.find? (·.id == line.accountId)

/-- Whether funds are checked: the first ACH debit on a known account decides, and
without one they are. -/
def checksFunds (guard : OverdraftGuard) (accounts : List Account)
    (lines : List TransactionLine) : Bool :=
  match debitedAccount? accounts lines with
  | some account => guard.protects account
  | none => true

end OverdraftGuard

/-- Whether a line may stay, given the balance that it leaves: the balance must be
above zero, and above the amount that an ACH debit took. -/
def isCovered (balance : Cents) (line : TransactionLine) : Bool :=
  !(balance.value ≤ 0 || (balance.value ≤ line.amount.value && line.purpose == .achDebit))

end DepositLedger
