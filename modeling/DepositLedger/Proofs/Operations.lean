import DepositLedger.Operations

/-! What is built on the operations of a backend, told from the outcomes of the operations. -/

namespace DepositLedger

theorem Action.bind_pure_apply {σ ε α β : Type} (step : Action σ ε α) (make : α → β) (state : σ) :
    (step >>= fun answer => pure (make answer)) state =
      ((step state).1.map make, (step state).2) := by
  rw [Action.bind_apply]
  rcases step state with ⟨_ | _, _⟩ <;> rfl

namespace Operations

variable {σ : Type} {operations : Operations σ} {id : TransactionId} {stamp : Stamp}
  {state between after : σ}

theorem reverse_of_none (read : operations.transaction? id state = (.ok none, after)) :
    operations.reverse id stamp state = (.error (.transactionNotFound id), after) := by
  rw [reverse, Action.bind_apply, read]
  rfl

theorem reverse_of_some {posted : Transaction}
    (read : operations.transaction? id state = (.ok (some posted), between)) :
    let reversal := posted.reversal stamp.id stamp.timestamp
    operations.reverse id stamp state =
      ((operations.post reversal {} stamp.recordedAt between).1.map fun _ => reversal,
        (operations.post reversal {} stamp.recordedAt between).2) := by
  rw [reverse, Action.bind_apply, read]
  exact Action.bind_pure_apply _ _ _

variable {customerId : CustomerId} {account : Account} {amount : Cents} {posted : σ}
  {fault : LedgerFault}

theorem openWithDeposit_of_refused
    (refused : operations.addAccount customerId account state = (.error fault, after)) :
    operations.openWithDeposit customerId account amount stamp state = (.error fault, after) := by
  rw [openWithDeposit, Action.bind_apply, refused]

theorem openWithDeposit_of_not_posted
    (added : operations.addAccount customerId account state = (.ok (), between))
    (refused : operations.post (openingDeposit account amount stamp) { initialDeposit := true }
      stamp.recordedAt between = (.error fault, after)) :
    operations.openWithDeposit customerId account amount stamp state = (.error fault, after) := by
  rw [openWithDeposit, Action.bind_apply, added]
  simp only [Action.bind_apply, refused]

theorem openWithDeposit_of_posted {shown : Account}
    (added : operations.addAccount customerId account state = (.ok (), between))
    (accepted : operations.post (openingDeposit account amount stamp) { initialDeposit := true }
      stamp.recordedAt between = (.ok (), posted))
    (read : operations.accounts [account.id] posted = (.ok [shown], after)) :
    operations.openWithDeposit customerId account amount stamp state = (.ok shown, after) := by
  rw [openWithDeposit, Action.bind_apply, added]
  simp only [Action.bind_apply, accepted, read]
  rfl

end Operations

end DepositLedger
