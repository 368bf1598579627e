import DepositLedger.Fault

/-! Outcomes of two backends that a caller cannot tell apart. What a unique violation says
is a matter of the backend, and so is which account it names of those whose balances
cannot be computed. All else is the same. -/

namespace DepositLedger

/-- Faults that may stand in each other's place, where the balances of the `lost`
accounts cannot be computed. -/
inductive LedgerFault.Alike (lost : AccountId → Prop) : LedgerFault → LedgerFault → Prop
  | same (fault : LedgerFault) : Alike lost fault fault
  | taken (first second : String) :
      Alike lost (.store (.uniqueViolation first)) (.store (.uniqueViolation second))
  | lost {first second : AccountId} (firstLost : lost first) (secondLost : lost second) :
      Alike lost (.balanceOverflow first) (.balanceOverflow second)

/-- Both succeed with answers that are the same in the sense of `same`, or both fail. -/
inductive OutcomesAlike {α : Type} (lost : AccountId → Prop) (same : α → α → Prop) :
    Except LedgerFault α → Except LedgerFault α → Prop
  | ok {first second : α} (alike : same first second) :
      OutcomesAlike lost same (.ok first) (.ok second)
  | error {first second : LedgerFault} (alike : first.Alike lost second) :
      OutcomesAlike lost same (.error first) (.error second)

section

variable {lost wider : AccountId → Prop}

theorem LedgerFault.Alike.mono {first second : LedgerFault} (alike : first.Alike lost second)
    (weaker : ∀ id, lost id → wider id) : first.Alike wider second := by
  cases alike with
  | same => exact .same _
  | taken => exact .taken _ _
  | lost firstLost secondLost => exact .lost (weaker _ firstLost) (weaker _ secondLost)

namespace OutcomesAlike

variable {α : Type} {same : α → α → Prop} {first second : Except LedgerFault α}

theorem rfl {outcome : Except LedgerFault α} : OutcomesAlike lost Eq outcome outcome := by
  cases outcome with
  | ok => exact .ok (Eq.refl _)
  | error fault => exact .error (.same fault)

theorem mono {weaker : α → α → Prop} (alike : OutcomesAlike lost same first second)
    (lostWider : ∀ id, lost id → wider id)
    (sameWeaker : ∀ answer answer', same answer answer' → weaker answer answer') :
    OutcomesAlike wider weaker first second := by
  cases alike with
  | ok alike => exact .ok (sameWeaker _ _ alike)
  | error alike => exact .error (alike.mono lostWider)

theorem map {β : Type} {make : α → β} {other : β → β → Prop}
    (alike : OutcomesAlike lost same first second)
    (made : ∀ answer answer', same answer answer' → other (make answer) (make answer')) :
    OutcomesAlike lost other (first.map make) (second.map make) := by
  cases alike with
  | ok alike => exact .ok (made _ _ alike)
  | error alike => exact .error alike

theorem map_right {other : α → α → Prop} {change : α → α}
    (alike : OutcomesAlike lost same first second)
    (changed : ∀ answer answer', same answer answer' → other answer (change answer')) :
    OutcomesAlike lost other first (second.map change) := by
  cases alike with
  | ok alike => exact .ok (changed _ _ alike)
  | error alike => exact .error alike

end OutcomesAlike

end

end DepositLedger
