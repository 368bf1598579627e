import DepositLedger.Purpose

/-! Balances. A balance is never kept: it is added up anew from the movements on
the account each time it is asked for. -/

namespace DepositLedger

/-- The movements added up with their signs, if every sum on the way is in range. -/
def balance? (movements : List Movement) : Option Cents :=
  movements.foldlM
    (fun sum movement => movement.effect?.bind sum.add?) Cents.zero

/-- What is reported of the money on an account. -/
structure AccountBalance where
  balance : Cents
  available : Cents
  pending : Cents
deriving DecidableEq

/-- All that is posted is available and nothing is pending: postings settle at once. -/
def AccountBalance.settled (posted : Cents) : AccountBalance :=
  ⟨posted, posted, Cents.zero⟩

end DepositLedger
