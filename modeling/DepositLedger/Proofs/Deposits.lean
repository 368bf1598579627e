import DepositLedger.Proofs.Acceptance

/-! Initial deposits. They need not add up to zero, and only their first line has to be an ACH
credit. So a deposit of one line brings money in, and one of several lines may take money out
again: it lowers the accounts of its ACH debits and no others. -/

namespace DepositLedger.Memory

namespace Ledger

variable {ledger : Ledger} {guard : OverdraftGuard} {transaction : Transaction}
  {options : PostingOptions}

/-- A posting lowers the accounts of its ACH debits. -/
theorem Accepts.exactBalance_lt_iff (accepted : ledger.Accepts guard transaction options)
    (accountId : AccountId) :
    (ledger.posted transaction).exactBalance accountId < ledger.exactBalance accountId ↔
      ∃ line ∈ transaction.lines, line.accountId = accountId ∧ line.purpose = .achDebit := by
  by_cases touched : ∃ line ∈ transaction.lines, line.accountId = accountId
  · rcases touched with ⟨line, member, rfl⟩
    have positive :=
      ((Transaction.shaped_of_checkFor accepted.checked).lines line member).positive
    rw [exactBalance_posted_of_mem accepted.distinct member]
    by_cases debit : line.purpose = .achDebit
    · rw [Movement.signed_achDebit debit]
      exact ⟨fun _ => ⟨line, member, rfl, debit⟩, fun _ => by omega⟩
    · rw [Movement.signed_of_ne_achDebit debit]
      constructor
      · intro lower
        omega
      · intro debited
        rcases debited with ⟨other, otherMember, same, otherDebit⟩
        rw [List.inj_on_of_nodup_map accepted.distinct otherMember member same] at otherDebit
        exact (debit otherDebit).elim
  · rw [exactBalance_posted_of_absent fun line member same => touched ⟨line, member, same⟩]
    constructor
    · intro lower
      exact (Int.lt_irrefl _ lower).elim
    · intro debited
      rcases debited with ⟨line, member, same, _⟩
      exact (touched ⟨line, member, same⟩).elim

/-- No stored account is lowered exactly if there is no ACH debit. -/
private theorem Accepts.forall_exactBalance_le_iff
    (accepted : ledger.Accepts guard transaction options) :
    (∀ account ∈ ledger.accounts,
      ledger.exactBalance account.id ≤ (ledger.posted transaction).exactBalance account.id) ↔
      ∀ line ∈ transaction.lines, line.purpose ≠ .achDebit := by
  constructor
  · intro raised line member debit
    rcases accepted.stored line member with ⟨account, stored, same⟩
    exact Int.not_lt.mpr (raised account stored)
      ((accepted.exactBalance_lt_iff account.id).mpr ⟨line, member, same.symm, debit⟩)
  · intro credits account _
    apply Int.not_lt.mp
    intro lower
    rcases (accepted.exactBalance_lt_iff account.id).mp lower with ⟨line, member, _, debit⟩
    exact credits line member debit

/-- The only line of an initial deposit is its first, and so an ACH credit. -/
private theorem Accepts.ne_achDebit_of_sole (accepted : ledger.Accepts guard transaction options)
    (deposit : options.initialDeposit = true) {only : TransactionLine}
    (sole : transaction.lines = [only]) :
    ∀ line ∈ transaction.lines, line.purpose ≠ .achDebit := by
  intro line member
  rw [sole, List.mem_singleton] at member
  rw [accepted.startsWithCredit deposit line (by rw [sole, member]; rfl)]
  exact (nomatch ·)

end Ledger

/-- On the ledger of any run, an initial deposit lowers the accounts of its ACH debits and no
others. So it only adds money exactly if it has none, as any deposit of one line. -/
theorem deposit_lowers_iff (guard : OverdraftGuard) (requests : List Request)
    (transaction : Transaction) (options : PostingOptions) (recordedAt : Timestamp)
    (deposit : options.initialDeposit = true)
    (succeeded : ((operations guard).post transaction options recordedAt
      (reached guard requests)).1 = .ok ()) :
    let ledger := reached guard requests
    let left := ((operations guard).post transaction options recordedAt ledger).2
    (∀ account ∈ ledger.accounts, left.exactBalance account.id < ledger.exactBalance account.id ↔
      ∃ line ∈ transaction.lines, line.accountId = account.id ∧ line.purpose = .achDebit) ∧
    (∀ line ∈ transaction.lines,
      left.exactBalance line.accountId = ledger.exactBalance line.accountId + line.signed) ∧
    ((∀ account ∈ ledger.accounts, ledger.exactBalance account.id ≤ left.exactBalance account.id) ↔
      ∀ line ∈ transaction.lines, line.purpose ≠ .achDebit) ∧
    ((∃ only, transaction.lines = [only]) →
      ∀ account ∈ ledger.accounts,
        ledger.exactBalance account.id ≤ left.exactBalance account.id) := by
  intro ledger left
  rcases (sound_reached guard requests).post_ok succeeded with ⟨accepted, leftEq⟩
  have leftIs : left = ledger.posted transaction := leftEq
  rw [leftIs]
  refine ⟨fun account _ => accepted.exactBalance_lt_iff account.id, fun line member =>
    Ledger.exactBalance_posted_of_mem accepted.distinct member,
    accepted.forall_exactBalance_le_iff, fun sole => ?_⟩
  rcases sole with ⟨only, linesOf⟩
  exact accepted.forall_exactBalance_le_iff.mpr (accepted.ne_achDebit_of_sole deposit linesOf)

/-- An empty account, and one with money on it. -/
def fundedRun : List Request :=
  [addSample 11 "219871289", addSample 12 "219871289",
    postSample 21 { initialDeposit := true }
      [sampleLine .achCredit ⟨1000, by decide, by decide⟩ 12]]

/-- A deposit on the empty account that takes more from the other one. -/
def debitingDeposit : Transaction where
  id := ⟨.ofNat 22⟩
  timestamp := .microsecondsInto2050 1
  lines := [sampleLine .achCredit ⟨10, by decide, by decide⟩ 11,
    sampleLine .achDebit ⟨300, by decide, by decide⟩ 12]

theorem deposit_lowers_debitingDeposit :
    let ledger := reached sampleGuard fundedRun
    let outcome := (operations sampleGuard).post debitingDeposit { initialDeposit := true }
      (.microsecondsInto2050 2) ledger
    outcome.1 = .ok () ∧ ∃ account ∈ ledger.accounts,
      outcome.2.exactBalance account.id < ledger.exactBalance account.id := by
  intro ledger outcome
  have succeeded : outcome.1 = .ok () := by decide
  refine ⟨succeeded, sampleAccount 12 "219871289", by decide, ?_⟩
  exact ((deposit_lowers_iff sampleGuard fundedRun debitingDeposit { initialDeposit := true }
    (.microsecondsInto2050 2) rfl succeeded).1 _ (by decide)).mpr (by decide)

theorem not_raises_debitingDeposit :
    ¬ ∀ (guard : OverdraftGuard) (requests : List Request) (transaction : Transaction)
      (options : PostingOptions) (recordedAt : Timestamp), options.initialDeposit = true →
      ((operations guard).post transaction options recordedAt (reached guard requests)).1 =
          .ok () →
        ∀ account ∈ (reached guard requests).accounts,
          (reached guard requests).exactBalance account.id ≤
            ((operations guard).post transaction options recordedAt
              (reached guard requests)).2.exactBalance account.id := by
  intro raises
  have raised := raises sampleGuard fundedRun debitingDeposit { initialDeposit := true }
    (.microsecondsInto2050 2) rfl (by decide)
  exact absurd raised (by decide)

end DepositLedger.Memory
