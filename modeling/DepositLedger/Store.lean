import DepositLedger.Action
import DepositLedger.Balance
import DepositLedger.Fault

/-! What posting asks of a store. A store opens units of work; all that belongs to
one posting is written in one unit, which is committed as a whole or rolled back
as a whole. A unit that is neither is dropped and leaves nothing. -/

namespace DepositLedger

/-- A store with shared state `σ` whose units of work are values of type `υ`. -/
structure UnitStore (σ υ : Type) where
  begin : Action σ StoreFault υ
  /-- Writes the header of a transaction and when it was recorded. -/
  writeHeader : TransactionId → Timestamp → (recordedAt : Timestamp) →
    Action (σ × υ) StoreFault Unit
  /-- Writes a line of a transaction. A second line of one transaction on one
  account is a unique violation. -/
  writeLine : TransactionId → TransactionLine → Action (σ × υ) StoreFault Unit
  /-- The movements on an account, those written in this unit among them. -/
  movements : AccountId → Action (σ × υ) StoreFault (List Movement)
  commit : υ → Action σ StoreFault Unit
  rollback : υ → Action σ StoreFault Unit

/-- The balance that movements on an account add up to. -/
def settle (accountId : AccountId) (movements : List Movement) : Except LedgerFault Cents :=
  match balance? movements with
  | some balance => .ok balance
  | none => .error (.balanceOverflow accountId)

/-- The balance of an account inside a unit of work. The nil account has none and
is not looked up. -/
def UnitStore.balanceOf {σ υ : Type} (store : UnitStore σ υ) (accountId : AccountId) :
    Action (σ × υ) LedgerFault Cents :=
  if accountId.isNil then pure Cents.zero
  else do
    let movements ← (store.movements accountId).mapError LedgerFault.store
    Action.ofExcept (settle accountId movements)

end DepositLedger
