import DepositLedger.Posting
import DepositLedger.Proofs.Balance

/-! What the checks made before any account is looked at let through. -/

namespace DepositLedger

/-- A line that its check lets through: it names an account and moves money. -/
structure TransactionLine.Sound (line : TransactionLine) : Prop where
  named : line.accountId ≠ EntityId.nil
  positive : 0 < line.amount.value

theorem TransactionLine.check_ok_iff {line : TransactionLine} :
    line.check = .ok () ↔ line.Sound := by
  unfold check
  constructor
  · intro passed
    split at passed
    · cases passed
    · split at passed
      · cases passed
      · split at passed
        · cases passed
        · rename_i notNil notZero notNegative
          exact ⟨fun nil => notNil (EntityId.isNil_iff.mpr nil), by omega⟩
  · intro sound
    have positive := sound.positive
    rw [if_neg fun nil => sound.named (EntityId.isNil_iff.mp nil),
      if_neg (by omega), if_neg (by omega)]

private theorem checkLines_ok_iff {index : Nat} {lines : List TransactionLine} :
    checkLines index lines = .ok () ↔ ∀ line ∈ lines, line.Sound := by
  induction lines generalizing index with
  | nil => simp [checkLines]
  | cons line rest induction =>
      rw [checkLines, List.forall_mem_cons, ← TransactionLine.check_ok_iff]
      cases outcome : line.check with
      | ok => simpa using induction
      | error reason => simp

namespace Transaction

/-- A transaction whose structure is in order. -/
structure Shaped (transaction : Transaction) : Prop where
  named : transaction.id ≠ EntityId.nil
  nonempty : transaction.lines ≠ []
  dated : transaction.timestamp ≠ Timestamp.epoch
  lines : ∀ line ∈ transaction.lines, line.Sound

theorem checkShape_ok_iff {transaction : Transaction} :
    transaction.checkShape = .ok () ↔ transaction.Shaped := by
  unfold checkShape
  constructor
  · intro passed
    split at passed
    · cases passed
    · split at passed
      · cases passed
      · split at passed
        · cases passed
        · rename_i notNil notEmpty notEpoch
          exact ⟨fun nil => notNil (EntityId.isNil_iff.mpr nil), by simpa using notEmpty,
            notEpoch, checkLines_ok_iff.mp passed⟩
  · intro shaped
    rw [if_neg fun nil => shaped.named (EntityId.isNil_iff.mp nil),
      if_neg (by simpa using shaped.nonempty), if_neg shaped.dated]
    exact checkLines_ok_iff.mpr shaped.lines

theorem shaped_of_check {transaction : Transaction}
    (passed : transaction.check = .ok ()) : transaction.Shaped := by
  apply checkShape_ok_iff.mp
  unfold check at passed
  cases outcome : transaction.checkShape with
  | ok => rfl
  | error fault =>
      rw [outcome] at passed
      cases passed

/-- Both ways of checking a transaction look at its structure. -/
theorem shaped_of_checkFor {transaction : Transaction} {options : PostingOptions}
    (passed : transaction.checkFor options = .ok ()) : transaction.Shaped := by
  unfold checkFor at passed
  split at passed
  · exact checkShape_ok_iff.mp passed
  · exact shaped_of_check passed

/-- The signed amounts added up, whether or not the sum is in range. -/
def exactSum (transaction : Transaction) : Int :=
  exactTotal (transaction.lines.map (·.toMovement))

theorem total?_eq_balance? (transaction : Transaction) :
    transaction.total? = balance? (transaction.lines.map (·.toMovement)) := by
  rw [total?, balance?, List.foldlM_map]

/-- The sum that is checked to be zero is the exact one. -/
theorem exactSum_eq_zero_of_check {transaction : Transaction}
    (passed : transaction.check = .ok ()) : transaction.exactSum = 0 := by
  unfold check at passed
  cases shape : transaction.checkShape with
  | error fault =>
      rw [shape] at passed
      cases passed
  | ok =>
      rw [shape, total?_eq_balance?] at passed
      cases added : balance? (transaction.lines.map (·.toMovement)) with
      | none =>
          rw [added] at passed
          cases passed
      | some sum =>
          rw [added] at passed
          dsimp only at passed
          split at passed
          · rename_i zero
            rw [exactSum, ← balance?_value added, zero]
          · cases passed

theorem exactSum_eq_zero_of_checkFor {transaction : Transaction} {options : PostingOptions}
    (passed : transaction.checkFor options = .ok ()) (plain : options.initialDeposit = false) :
    transaction.exactSum = 0 := by
  rw [checkFor, plain] at passed
  exact exactSum_eq_zero_of_check passed

end Transaction

end DepositLedger
