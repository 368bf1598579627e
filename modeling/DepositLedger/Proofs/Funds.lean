import DepositLedger.Proofs.Acceptance

/-! Funds. Where no posting has leave to overdraw, an account of the ledger's own bank
falls below zero in one way only: funds are not checked where the first ACH debit is
on an account of another bank, and the same transaction debits the account too. -/

namespace DepositLedger.Memory

/-- No account that the guard protects is below zero. -/
def Ledger.Solvent (ledger : Ledger) (guard : OverdraftGuard) : Prop :=
  ∀ account ∈ ledger.accounts, guard.protects account = true →
    0 ≤ ledger.exactBalance account.id

instance (ledger : Ledger) (guard : OverdraftGuard) : Decidable (ledger.Solvent guard) :=
  inferInstanceAs (Decidable (∀ account ∈ ledger.accounts, guard.protects account = true →
    0 ≤ ledger.exactBalance account.id))

/-- A posting whose first ACH debit is on an account of another bank, with an ACH debit
of more than there is on an account that the guard protects. -/
def AcceptedPosting.Overdraws (posting : AcceptedPosting) (guard : OverdraftGuard) : Prop :=
  ¬ posting.ledger.GuardsFunds guard posting.transaction ∧
    ∃ line ∈ posting.transaction.lines, line.purpose = .achDebit ∧
      (∃ account ∈ posting.ledger.accounts,
        account.id = line.accountId ∧ guard.protects account = true) ∧
      posting.ledger.exactBalance line.accountId < line.amount.value

instance (posting : AcceptedPosting) (guard : OverdraftGuard) :
    Decidable (posting.Overdraws guard) :=
  inferInstanceAs (Decidable (¬ _ ∧ ∃ line ∈ posting.transaction.lines, _ ∧
    (∃ account ∈ posting.ledger.accounts, _ ∧ _) ∧ _))

namespace Ledger

variable {ledger added : Ledger} {guard : OverdraftGuard} {transaction : Transaction}
  {options : PostingOptions}

theorem Solvent.addAccount (solvent : ledger.Solvent guard) (sound : ledger.Sound)
    {customerId : CustomerId} {account : Account}
    (stored : ledger.addAccount customerId account = .ok added) : added.Solvent guard := by
  rcases addAccount_ok_iff.mp stored with ⟨_, newId, rfl⟩
  intro other member held
  rcases List.mem_append.mp member with earlier | new
  · exact solvent other earlier held
  · rw [List.mem_singleton] at new
    have none : movementsOf ledger.lines other.id = [] := by
      apply sound.movementsOf_eq_nil
      rw [new]
      exact newId
    have zero : ledger.exactBalance other.id = 0 := by
      rw [exactBalance, none, exactTotal_nil]
    exact Int.le_of_eq zero.symm

/-- A line that funds are checked for leaves no account below zero. -/
private theorem Affords.nonneg {checksFunds : Prop} {line : TransactionLine}
    (affords : ledger.Affords checksFunds line) (checked : checksFunds) :
    0 ≤ ledger.exactBalance line.accountId + line.signed := by
  rcases affords with ⟨old, computed, _, _, covered⟩
  rw [← balanceOf?_value computed]
  exact Int.le_of_lt (covered checked).1

/-- A large initial deposit is credited, so it is never the place of an ACH debit. -/
private theorem Accepts.not_isLargeDeposit (accepted : ledger.Accepts guard transaction options)
    {line : TransactionLine} (member : line ∈ transaction.lines)
    (debit : line.purpose = .achDebit) : ¬ transaction.IsLargeDeposit options := by
  intro large
  rcases large with ⟨deposit, only, linesOf, _⟩
  rw [linesOf, List.mem_singleton] at member
  have credit := accepted.startsWithCredit deposit line (by rw [linesOf, member]; rfl)
  rw [debit] at credit
  cases credit

theorem Solvent.posted (solvent : ledger.Solvent guard)
    (accepted : ledger.Accepts guard transaction options)
    (guarded : options.allowOverdraft = false)
    (covered : ¬ AcceptedPosting.Overdraws ⟨ledger, transaction, options⟩ guard) :
    (ledger.posted transaction).Solvent guard := by
  intro account stored held
  have before := solvent account stored held
  by_cases touched : ∃ line ∈ transaction.lines, line.accountId = account.id
  · rcases touched with ⟨line, member, same⟩
    rw [← same] at before ⊢
    rw [exactBalance_posted_of_mem accepted.distinct member]
    by_cases debit : line.purpose = .achDebit
    -- A debit is either checked against the funds, or not among the uncovered ones.
    · by_cases guards : ledger.GuardsFunds guard transaction
      · have small := accepted.not_isLargeDeposit member debit
        exact (accepted.affordable small line member).nonneg ⟨guarded, guards⟩
      · have enough : line.amount.value ≤ ledger.exactBalance line.accountId := by
          by_contra short
          exact covered ⟨guards, line, member, debit, ⟨account, stored, same.symm, held⟩,
            Int.not_le.mp short⟩
        rw [Movement.signed_achDebit debit]
        omega
    · rw [Movement.signed_of_ne_achDebit debit]
      have positive :=
        ((Transaction.shaped_of_checkFor accepted.checked).lines line member).positive
      omega
  · rw [exactBalance_posted_of_absent fun line member same => touched ⟨line, member, same⟩]
    exact before

theorem Built.solvent {earlier : List AcceptedPosting} (built : ledger.Built guard earlier)
    (guarded : ∀ posting ∈ earlier, posting.options.allowOverdraft = false)
    (covered : ∀ posting ∈ earlier, ¬ posting.Overdraws guard) : ledger.Solvent guard := by
  induction built with
  | empty => exact fun _ member => nomatch member
  | account built stored induction =>
      exact (induction guarded covered).addAccount built.sound stored
  | posting built passed induction =>
      rcases List.forall_mem_append.mp guarded with ⟨guardedBefore, guardedLast⟩
      rcases List.forall_mem_append.mp covered with ⟨coveredBefore, coveredLast⟩
      exact (induction guardedBefore coveredBefore).posted
        (built.sound.verdict_ok_iff_accepts.mp passed)
        (guardedLast _ (List.mem_singleton_self _)) (coveredLast _ (List.mem_singleton_self _))

end Ledger

private theorem AcceptedPosting.Overdraws.not_solvent {posting : AcceptedPosting}
    {guard : OverdraftGuard} (overdraws : posting.Overdraws guard)
    (accepted : posting.ledger.Accepts guard posting.transaction posting.options) :
    ¬ (posting.ledger.posted posting.transaction).Solvent guard := by
  rcases overdraws with
    ⟨_, line, member, debit, ⟨account, stored, same, held⟩, short⟩
  intro solvent
  have nonneg := solvent account stored held
  rw [same, Ledger.exactBalance_posted_of_mem accepted.distinct member,
    Movement.signed_achDebit debit] at nonneg
  omega

/-- Along a run in which no request has leave to overdraw, the accounts of the ledger's
own bank stay at or above zero exactly if no accepted posting overdraws one behind a
debit of another bank's account. -/
theorem solvent_iff_not_overdraws (guard : OverdraftGuard) (requests : List Request)
    (guarded : ∀ request ∈ requests, request.allowsOverdraft = false) :
    (∀ earlier, earlier <+: requests → (reached guard earlier).Solvent guard) ↔
      ∀ posting ∈ postings guard requests, ¬ posting.Overdraws guard := by
  constructor
  · intro solvent posting member overdraws
    rcases exists_reached_eq_posted member with ⟨earlier, initial, left⟩
    have accepted := (built_reached guard requests).accepts posting member
    exact overdraws.not_solvent accepted (left ▸ solvent earlier initial)
  · intro covered earlier initial
    rcases initial with ⟨later, rfl⟩
    have before : postings guard earlier ⊆ postings guard (earlier ++ later) := by
      rw [postings, postings, postingsFrom_append]
      exact List.subset_append_left _ _
    have guardedBefore : ∀ request ∈ earlier, request.allowsOverdraft = false :=
      fun request member => guarded request (List.mem_append_left _ member)
    exact (built_reached guard earlier).solvent (allowOverdraft_eq_false guardedBefore)
      fun posting member => covered posting (before member)

/-- An empty account of the ledger's own bank is debited behind one of another bank. -/
def overdrawingRun : List Request :=
  [addSample 11 "121042882", addSample 12 "219871289", addSample 13 "219871289",
    postSample 21 {} [sampleLine .achDebit ⟨100, by decide, by decide⟩ 11,
      sampleLine .achDebit ⟨100, by decide, by decide⟩ 12,
      sampleLine .achCredit ⟨200, by decide, by decide⟩ 13]]

theorem not_solvent_overdrawingRun :
    ¬ ∀ (guard : OverdraftGuard) (requests : List Request),
      (∀ request ∈ requests, request.allowsOverdraft = false) →
        (reached guard requests).Solvent guard := by
  intro solvent
  have nonneg := solvent sampleGuard overdrawingRun (by decide)
  exact absurd nonneg (by decide)

theorem overdraws_overdrawingRun :
    (∀ request ∈ overdrawingRun, request.allowsOverdraft = false) ∧
      ∃ posting ∈ postings sampleGuard overdrawingRun, posting.Overdraws sampleGuard := by
  have guarded : ∀ request ∈ overdrawingRun, request.allowsOverdraft = false := by decide
  refine ⟨guarded, ?_⟩
  by_contra none
  have covered := (solvent_iff_not_overdraws sampleGuard overdrawingRun guarded).mpr
    fun posting member overdraws => none ⟨posting, member, overdraws⟩
  exact absurd (covered overdrawingRun List.prefix_rfl) (by decide)

end DepositLedger.Memory
