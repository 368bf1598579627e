import DepositLedger.Proofs.DoubleEntry

/-! What movements are added up to. The sum on an account and the sum of a transaction are the
same, and it is exact. The order of movements may decide whether there is a sum, never which one
it is, so that it does not matter in which order a store reads them. -/

namespace DepositLedger

/-- Only an ACH debit of the lowest amount has no signed amount. -/
private theorem Movement.isSome_effect?_iff {movement : Movement} :
    movement.effect?.isSome ↔
      (movement.purpose = .achDebit → movement.amount.value ≠ -0x8000000000000000) := by
  have bounds := movement.amount.in_range
  rw [effect?]
  split
  · rename_i debit
    rw [Cents.neg?, Cents.isSome_ofInt?_iff, Cents.InRange]
    constructor
    · intro fits _
      omega
    · intro notLowest
      have above := notLowest debit
      omega
  · rename_i notDebit
    simp only [Option.isSome_some, true_iff]
    intro debit
    exact absurd debit notDebit

/-- Movements that both orders have a sum for have one sum. -/
private theorem balance?_perm {first second : List Movement} (reordered : first.Perm second)
    {firstSum secondSum : Cents} (firstFound : balance? first = some firstSum)
    (secondFound : balance? second = some secondSum) : firstSum = secondSum := by
  apply Cents.ext_value
  rw [balance?_value firstFound, balance?_value secondFound]
  exact exactTotal_perm reordered

/-- Movements add up exactly if no ACH debit is of the lowest amount and every sum on the way is
in range; then they add up to the exact total. The lines of a transaction add up in the same way,
and so do movements in any other order, if they do in both. -/
theorem balance_is_exact (movements : List Movement) :
    ((balance? movements).isSome ↔
      (∀ movement ∈ movements,
        movement.purpose = .achDebit → movement.amount.value ≠ -0x8000000000000000) ∧
      ∀ part, part <+: movements → Cents.InRange (exactTotal part)) ∧
    (∀ balance, balance? movements = some balance → balance.value = exactTotal movements) ∧
    (∀ transaction : Transaction,
      transaction.total? = balance? (transaction.lines.map (·.toMovement))) ∧
    (∀ reordered, reordered.Perm movements → ∀ balance other,
      balance? movements = some balance → balance? reordered = some other →
        other = balance) := by
  refine ⟨?_, fun balance found => balance?_value found, Transaction.total?_eq_balance?, ?_⟩
  · rw [isSome_balance?_iff, StaysInRange]
    simp only [Movement.isSome_effect?_iff]
  · intro reordered perm balance other found otherFound
    exact balance?_perm perm otherFound found

/-- Of three orders of the same movements one leaves the range on its way; the others have a sum. -/
theorem balance_is_exact_reordered :
    let most : Movement := ⟨.achCredit, ⟨0x7fffffffffffffff, by decide⟩⟩
    let credit : Movement := ⟨.interest, ⟨1, by decide⟩⟩
    let debit : Movement := ⟨.achDebit, ⟨1, by decide⟩⟩
    balance? [most, credit, debit] = none ∧ (balance? [most, debit, credit]).isSome ∧
      balance? [debit, most, credit] = balance? [most, debit, credit] := by
  intro most credit debit
  have summed : (balance? [most, debit, credit]).isSome := by decide
  have otherSummed : (balance? [debit, most, credit]).isSome := by decide
  rcases Option.isSome_iff_exists.mp summed with ⟨sum, found⟩
  rcases Option.isSome_iff_exists.mp otherSummed with ⟨other, otherFound⟩
  have same := (balance_is_exact [most, debit, credit]).2.2.2 [debit, most, credit]
    (List.Perm.swap most debit [credit]) sum other found otherFound
  refine ⟨by decide, summed, ?_⟩
  rw [found, otherFound, same]

end DepositLedger
