import DepositLedger.Proofs.DoubleEntry
import DepositLedger.Proofs.Reversal
import Mathlib.Algebra.BigOperators.Group.List.Basic
import Mathlib.Algebra.Ring.Int.Defs

/-! Which transactions can be reversed. Line by line, what a reversal has added up to is what the
transaction had, with the other sign, and twice what lines of purposes other than ACH amount to.
So only transactions of ACH lines can be reversed, and not all of them: the range of amounts has a
lowest sum that has no opposite in it. -/

namespace DepositLedger

private theorem Purpose.isAch_iff {purpose : Purpose} :
    purpose.isAch = true ↔ purpose = .achCredit ∨ purpose = .achDebit := by
  cases purpose <;> simp [isAch]

private theorem TransactionLine.Sound.opposite {line : TransactionLine} (sound : line.Sound) :
    line.opposite.Sound where
  named := sound.named
  positive := sound.positive

/-- Lines that are no ACH debits add up to what they amount to. -/
private theorem exactTotal_of_credits {lines : List TransactionLine}
    (credits : ∀ line ∈ lines, line.purpose ≠ .achDebit) :
    exactTotal (lines.map (·.toMovement)) = (lines.map (·.amount.value)).sum := by
  induction lines with
  | nil => rfl
  | cons line rest induction =>
      rcases List.forall_mem_cons.mp credits with ⟨credit, restCredits⟩
      rw [List.map_cons, exactTotal_cons, Movement.signed_of_ne_achDebit credit,
        induction restCredits, List.map_cons, List.sum_cons]

/-- The opposites of ACH lines add up to the opposite sum. -/
private theorem exactTotal_map_opposite_of_isAch {lines : List TransactionLine}
    (allAch : ∀ line ∈ lines, line.purpose.isAch = true) :
    exactTotal ((lines.map TransactionLine.opposite).map (·.toMovement)) =
      -exactTotal (lines.map (·.toMovement)) := by
  have others : lines.filter (!·.purpose.isAch) = [] := by
    rw [List.filter_eq_nil_iff]
    intro line member
    simp [allAch line member]
  have twice := exactTotal_map_opposite lines
  rw [others, List.map_nil, exactTotal_nil] at twice
  omega

/-- Of the sums in range, only the lowest one has its opposite out of range. -/
private theorem Cents.inRange_neg_iff {value : Int} (fits : Cents.InRange value) :
    Cents.InRange (-value) ↔ value ≠ -0x8000000000000000 := by
  unfold InRange at *
  omega

namespace Transaction

/-- What the lines of purposes other than ACH amount to. -/
def otherSum (transaction : Transaction) : Int :=
  ((transaction.lines.filter (!·.purpose.isAch)).map (·.amount.value)).sum

variable {transaction : Transaction} {id : TransactionId} {timestamp : Timestamp}

private theorem exactTotal_others (transaction : Transaction) :
    exactTotal ((transaction.lines.filter (!·.purpose.isAch)).map (·.toMovement)) =
      transaction.otherSum := by
  apply exactTotal_of_credits
  intro line member debit
  have other := (List.mem_filter.mp member).2
  rw [debit] at other
  cases other

theorem Shaped.reversal (shaped : transaction.Shaped) (named : id ≠ EntityId.nil)
    (dated : timestamp ≠ Timestamp.epoch) : (transaction.reversal id timestamp).Shaped where
  named := named
  nonempty := by
    rw [reversal_lines]
    simpa using shaped.nonempty
  dated := dated
  lines := by
    rw [reversal_lines, List.forall_mem_map]
    exact fun line member => (shaped.lines line member).opposite

/-- The reversal of a transaction that adds up to zero has what is not ACH twice. -/
private theorem exactSum_reversal (balanced : transaction.exactSum = 0) :
    (transaction.reversal id timestamp).exactSum = 2 * transaction.otherSum := by
  have twice := exactTotal_map_opposite transaction.lines
  rw [exactTotal_others] at twice
  rw [exactSum] at balanced ⊢
  rw [reversal_lines]
  omega

private theorem exactSum_reversal_eq_zero_iff (shaped : transaction.Shaped)
    (balanced : transaction.exactSum = 0) :
    (transaction.reversal id timestamp).exactSum = 0 ↔
      ∀ line ∈ transaction.lines, line.purpose.isAch = true := by
  rw [exactSum_reversal balanced, ← exactTotal_others_eq_zero_iff shaped.lines, exactTotal_others]
  omega

/-- The sums on the way of a reversal of ACH lines are the opposite ones. -/
private theorem sumsInRange_reversal_iff (stays : transaction.SumsInRange)
    (allAch : ∀ line ∈ transaction.lines, line.purpose.isAch = true) :
    (transaction.reversal id timestamp).SumsInRange ↔
      ∀ part, part <+: transaction.lines →
        exactTotal (part.map (·.toMovement)) ≠ -0x8000000000000000 := by
  have opposite (part : List TransactionLine) (initial : part <+: transaction.lines) :
      Cents.InRange (exactTotal ((part.map TransactionLine.opposite).map (·.toMovement))) ↔
        exactTotal (part.map (·.toMovement)) ≠ -0x8000000000000000 := by
    have partAch : ∀ line ∈ part, line.purpose.isAch = true :=
      fun line member => allAch line (initial.subset member)
    rw [exactTotal_map_opposite_of_isAch partAch, Cents.inRange_neg_iff (stays part initial)]
  rw [SumsInRange, reversal_lines]
  simp only [List.prefix_map_iff]
  constructor
  · intro reversalStays part initial
    exact (opposite part initial).mp (reversalStays _ ⟨part, initial, rfl⟩)
  · rintro notLowest _ ⟨part, initial, rfl⟩
    exact (opposite part initial).mpr (notLowest part initial)

private theorem check_reversal_ok_iff (accepted : transaction.check = .ok ())
    (named : id ≠ EntityId.nil) (dated : timestamp ≠ Timestamp.epoch) :
    (transaction.reversal id timestamp).check = .ok () ↔
      (∀ line ∈ transaction.lines, line.purpose.isAch = true) ∧
        ∀ part, part <+: transaction.lines →
          exactTotal (part.map (·.toMovement)) ≠ -0x8000000000000000 := by
  rcases check_ok_iff.mp accepted with ⟨shaped, stays, balanced⟩
  rw [check_ok_iff]
  constructor
  · rintro ⟨_, reversalStays, reversalBalanced⟩
    have allAch := (exactSum_reversal_eq_zero_iff shaped balanced).mp reversalBalanced
    exact ⟨allAch, (sumsInRange_reversal_iff stays allAch).mp reversalStays⟩
  · rintro ⟨allAch, notLowest⟩
    exact ⟨shaped.reversal named dated, (sumsInRange_reversal_iff stays allAch).mpr notLowest,
      (exactSum_reversal_eq_zero_iff shaped balanced).mpr allAch⟩

/-- A line of a reversal undoes the line that it stands for. -/
private theorem forall₂_reversal_lines
    (allAch : ∀ line ∈ transaction.lines, line.purpose.isAch = true) :
    List.Forall₂ (fun line undone =>
        undone.accountId = line.accountId ∧ undone.amount = line.amount ∧
          undone.signed = -line.signed)
      transaction.lines (transaction.reversal id timestamp).lines := by
  rw [reversal_lines, List.forall₂_map_right_iff, List.forall₂_same]
  intro line member
  refine ⟨rfl, rfl, ?_⟩
  rw [line.signed_opposite, if_pos (allAch line member)]

end Transaction

/-- The reversal of a transaction that passes its check passes too, exactly if all lines are ACH
lines and no sum on the way is the lowest in range; then each line is undone by one of its own.
Any other reversal is refused: for what it adds up to, which is what is not ACH twice, or because
that cannot be added up. -/
theorem reversal_passes_iff (transaction : Transaction) (id : TransactionId)
    (timestamp : Timestamp) (accepted : transaction.check = .ok ())
    (named : id ≠ EntityId.nil) (dated : timestamp ≠ Timestamp.epoch) :
    let reversal := transaction.reversal id timestamp
    (reversal.check = .ok () ↔
      (∀ line ∈ transaction.lines, line.purpose = .achCredit ∨ line.purpose = .achDebit) ∧
        ∀ part, part <+: transaction.lines →
          exactTotal (part.map (·.toMovement)) ≠ -0x8000000000000000) ∧
    (reversal.check = .ok () →
      List.Forall₂ (fun line undone =>
          undone.accountId = line.accountId ∧ undone.amount = line.amount ∧
            undone.signed = -line.signed)
        transaction.lines reversal.lines) ∧
    (reversal.check ≠ .ok () →
      (reversal.SumsInRange → ∃ sum : Cents, sum.value = 2 * transaction.otherSum ∧
        reversal.check = .error (.unbalanced sum reversal.lines.length)) ∧
      (¬ reversal.SumsInRange →
        reversal.check = .error (.amountOverflow reversal.lines.length))) := by
  intro reversal
  rcases Transaction.check_ok_iff.mp accepted with ⟨shaped, _, balanced⟩
  have passes := Transaction.check_reversal_ok_iff accepted named dated
  have reversalShaped : reversal.Shaped := shaped.reversal named dated
  refine ⟨?_, fun passed => Transaction.forall₂_reversal_lines (passes.mp passed).1, ?_⟩
  · simpa only [Purpose.isAch_iff] using passes
  · intro refused
    refine ⟨fun stays => ?_, fun beyond => reversalShaped.check_of_overflow beyond⟩
    have unbalanced : reversal.exactSum ≠ 0 := fun zero =>
      refused (Transaction.check_ok_iff.mpr ⟨reversalShaped, stays, zero⟩)
    rcases reversalShaped.exists_check_unbalanced stays unbalanced with ⟨sum, value, checked⟩
    exact ⟨sum, value.trans (Transaction.exactSum_reversal balanced), checked⟩

namespace Memory

/-- A transfer of ACH lines whose debits come first and add up to the lowest sum in range. -/
def lowestTransfer : Transaction where
  id := ⟨.ofNat 21⟩
  timestamp := .microsecondsInto2050 1
  lines := [sampleLine .achDebit (sampleCents 0x7fffffffffffffff) 11,
    sampleLine .achDebit (sampleCents 1) 12,
    sampleLine .achCredit (sampleCents 0x7fffffffffffffff) 13,
    sampleLine .achCredit (sampleCents 1) 14]

theorem reversal_refused_lowestTransfer :
    lowestTransfer.check = .ok () ∧
      (∀ line ∈ lowestTransfer.lines, line.purpose = .achCredit ∨ line.purpose = .achDebit) ∧
      (lowestTransfer.reversal sampleStamp.id sampleStamp.timestamp).check =
        .error (.amountOverflow 4) := by
  have accepted : lowestTransfer.check = .ok () := by decide
  have outcome := reversal_passes_iff lowestTransfer sampleStamp.id sampleStamp.timestamp accepted
    (by decide) (by decide)
  refine ⟨accepted, by decide, (outcome.2.2 fun passed => ?_).2 fun stays => ?_⟩
  · have notLowest := (outcome.1.mp passed).2 _ (List.take_prefix 2 lowestTransfer.lines)
    exact absurd notLowest (by decide)
  · have fits := stays _ (List.take_prefix 2 _)
    exact absurd fits (by decide)

end Memory

end DepositLedger
