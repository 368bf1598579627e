import DepositLedger.Proofs.Acceptance

/-! The range of balances. Every accepted posting computes the balances of its accounts
and stays in range with them, but for the initial deposit of one large line: it is added
unseen, and an account that it takes out of range can never be read or posted to again. -/

namespace DepositLedger.Memory

/-- A large initial deposit takes the balance of an account out of range. -/
def AcceptedPosting.Overflows (posting : AcceptedPosting) (accountId : AccountId) : Prop :=
  posting.transaction.IsLargeDeposit posting.options ∧
    ∃ line ∈ posting.transaction.lines, line.accountId = accountId ∧
      0x8000000000000000 ≤ posting.ledger.exactBalance accountId + line.amount.value

/-- No posting of a run has taken the account's balance out of range. -/
def Intact (guard : OverdraftGuard) (requests : List Request) (accountId : AccountId) : Prop :=
  ∀ posting ∈ postings guard requests, ¬ posting.Overflows accountId

namespace Ledger

variable {ledger : Ledger} {guard : OverdraftGuard} {transaction : Transaction}
  {options : PostingOptions}

private theorem Affords.isSome_ofInt? {checksFunds : Prop} {line : TransactionLine} {old : Cents}
    (affords : ledger.Affords checksFunds line)
    (computed : ledger.balanceOf? line.accountId = some old) :
    (Cents.ofInt? (old.value + line.signed)).isSome := by
  rcases affords with ⟨same, found, above, below, _⟩
  rw [computed] at found
  cases found
  rw [Option.isSome_iff_exists]
  exact ⟨⟨old.value + line.signed, above, below⟩, Cents.ofInt?_eq_some_iff.mpr rfl⟩

/-- A deposit is only ever too large. -/
private theorem isSome_ofInt?_add_iff {old amount : Cents} (positive : 0 < amount.value) :
    (Cents.ofInt? (old.value + amount.value)).isSome ↔
      ¬ 0x8000000000000000 ≤ old.value + amount.value := by
  have above := old.in_range.1
  cases added : Cents.ofInt? (old.value + amount.value) with
  | none =>
      have outside := Cents.ofInt?_eq_none_iff.mp added
      simp only [Option.isSome_none, Bool.false_eq_true, false_iff, not_not]
      omega
  | some new =>
      have bounds := new.in_range
      rw [Cents.ofInt?_eq_some_iff.mp added] at bounds
      simp only [Option.isSome_some, true_iff]
      omega

/-- What one accepted posting does to the balances that can be computed. -/
private theorem isSome_balanceOf?_posted_iff (accepted : ledger.Accepts guard transaction options)
    (accountId : AccountId) :
    ((ledger.posted transaction).balanceOf? accountId).isSome ↔
      (ledger.balanceOf? accountId).isSome ∧
        ¬ AcceptedPosting.Overflows ⟨ledger, transaction, options⟩ accountId := by
  by_cases touched : ∃ line ∈ transaction.lines, line.accountId = accountId
  · rcases touched with ⟨line, member, rfl⟩
    have sound := (Transaction.shaped_of_checkFor accepted.checked).lines line member
    have computable := accepted.computable line member
    rcases Option.isSome_iff_exists.mp computable with ⟨old, computed⟩
    rw [balanceOf?_posted_of_mem sound accepted.distinct member computed]
    simp only [computable, true_and]
    -- Only a large deposit skips the sum, and then its line is the only one.
    by_cases large : transaction.IsLargeDeposit options
    · rcases large with ⟨deposit, only, linesOf, above⟩
      have same : line = only := by
        rw [linesOf] at member
        exact List.mem_singleton.mp member
      have credit : line.purpose = .achCredit :=
        accepted.startsWithCredit deposit line (by rw [linesOf, same]; rfl)
      have signed : line.signed = line.amount.value :=
        Movement.signed_of_ne_achDebit (by rw [credit]; exact (nomatch ·))
      have overflows : AcceptedPosting.Overflows ⟨ledger, transaction, options⟩ line.accountId ↔
          0x8000000000000000 ≤ old.value + line.amount.value := by
        rw [balanceOf?_value computed]
        constructor
        · intro overflows
          rcases overflows with ⟨_, other, otherMember, _, beyond⟩
          rw [linesOf, List.mem_singleton, ← same] at otherMember
          rw [otherMember] at beyond
          exact beyond
        · intro beyond
          exact ⟨⟨deposit, only, linesOf, above⟩, line, member, rfl, beyond⟩
      rw [signed, isSome_ofInt?_add_iff sound.positive, overflows]
    · have affords := accepted.affordable large line member
      exact ⟨fun _ overflows => large overflows.1, fun _ => affords.isSome_ofInt? computed⟩
  · have absent : ∀ line ∈ transaction.lines, line.accountId ≠ accountId :=
      fun line member same => touched ⟨line, member, same⟩
    rw [balanceOf?_posted_of_absent absent]
    have unmoved : ¬ AcceptedPosting.Overflows ⟨ledger, transaction, options⟩ accountId := by
      intro overflows
      rcases overflows with ⟨_, line, member, same, _⟩
      exact absent line member same
    exact ⟨fun computable => ⟨computable, unmoved⟩, And.left⟩

private theorem Built.isSome_balanceOf?_iff {earlier : List AcceptedPosting}
    (built : ledger.Built guard earlier) (accountId : AccountId) :
    (ledger.balanceOf? accountId).isSome ↔
      ∀ posting ∈ earlier, ¬ posting.Overflows accountId := by
  induction built with
  | empty => exact ⟨fun _ _ member => (nomatch member), fun _ => rfl⟩
  | account _ stored induction =>
      rcases addAccount_ok_iff.mp stored with ⟨_, _, rfl⟩
      exact induction
  | posting built passed induction =>
      have accepted := built.sound.verdict_ok_iff_accepts.mp passed
      rw [isSome_balanceOf?_posted_iff accepted, induction, List.forall_mem_append,
        List.forall_mem_singleton]

/-- An account found by its numbers is the only one of them. -/
theorem Sound.exists_findAccount_iff (sound : ledger.Sound)
    {accountNumber routingNumber : String} {accountType : AccountType} :
    (∃ found, ledger.findAccount accountNumber routingNumber accountType = .ok found) ↔
      ∀ account ∈ ledger.accounts, account.accountNumber = accountNumber →
        account.routingNumber = routingNumber → account.accountType = accountType →
          (ledger.balanceOf? account.id).isSome := by
  rw [findAccount]
  cases searched : ledger.accounts.find? fun account =>
      account.accountNumber == accountNumber && account.routingNumber == routingNumber &&
        account.accountType == accountType with
  | none =>
      constructor
      · intro _ account stored number routing type
        have passedOver := List.find?_eq_none.mp searched account stored
        simp [number, routing, type] at passedOver
      · intro _
        exact ⟨none, rfl⟩
  | some account =>
      have stored := List.mem_of_find?_eq_some searched
      have matched := List.find?_some searched
      simp only [Bool.and_eq_true, beq_iff_eq] at matched
      rcases matched with ⟨⟨number, routing⟩, type⟩
      constructor
      · intro readable other otherStored otherNumber otherRouting _
        rcases readable with ⟨found, read⟩
        have same : other = account := List.inj_on_of_nodup_map sound.accountNumbers otherStored
          stored (by rw [otherNumber, otherRouting, number, routing])
        rw [same]
        by_contra lost
        have none := Option.not_isSome_iff_eq_none.mp lost
        dsimp only at read
        rw [readAccount_of_none none] at read
        cases read
      · intro each
        rcases Option.isSome_iff_exists.mp (each account stored number routing type) with
          ⟨balance, computed⟩
        dsimp only
        rw [readAccount_of_some computed]
        exact ⟨_, rfl⟩

end Ledger

/-- On the ledger of any run, an account can be read and posted to exactly if no large
initial deposit has taken its balance out of range. -/
theorem reads_iff_intact (guard : OverdraftGuard) (requests : List Request) :
    let ledger := reached guard requests
    (∀ account ∈ ledger.accounts,
      (ledger.balanceOf? account.id).isSome ↔ Intact guard requests account.id) ∧
    (∀ ids, (∃ shown, ledger.accountsById ids = .ok shown) ↔
      ∀ account ∈ ledger.accounts, account.id ∈ ids → Intact guard requests account.id) ∧
    (∀ customerId, (∃ shown, ledger.accountsOfCustomer customerId = .ok shown) ↔
      ∀ account ∈ ledger.accounts, account.customerId = customerId →
        Intact guard requests account.id) ∧
    (∀ accountNumber routingNumber accountType,
      (∃ found, ledger.findAccount accountNumber routingNumber accountType = .ok found) ↔
        ∀ account ∈ ledger.accounts, account.accountNumber = accountNumber →
          account.routingNumber = routingNumber → account.accountType = accountType →
            Intact guard requests account.id) ∧
    (∀ transaction options recordedAt,
      (∃ line ∈ transaction.lines, ¬ Intact guard requests line.accountId) →
        ((operations guard).post transaction options recordedAt ledger).1 ≠ .ok ()) := by
  have built := built_reached guard requests
  dsimp only
  generalize reached guard requests = ledger at built ⊢
  have computable : ∀ accountId,
      (ledger.balanceOf? accountId).isSome ↔ Intact guard requests accountId :=
    built.isSome_balanceOf?_iff
  refine ⟨fun account _ => computable account.id, ?_, ?_, ?_, ?_⟩
  · intro ids
    rw [Ledger.accountsById, Ledger.exists_readAll_iff]
    simp only [List.mem_filterMap, computable]
    constructor
    · intro each account stored named
      exact each account ⟨account.id, named, built.sound.account?_eq stored⟩
    · intro each account listed
      rcases listed with ⟨id, named, found⟩
      exact each account (Ledger.account?_mem found) (Ledger.account?_id found ▸ named)
  · intro customerId
    rw [Ledger.accountsOfCustomer, Ledger.exists_readAll_iff]
    simp only [List.mem_filter, beq_iff_eq, computable, and_imp]
  · intro accountNumber routingNumber accountType
    rw [built.sound.exists_findAccount_iff]
    simp only [computable]
  · intro transaction options recordedAt touchesLost succeeded
    rcases touchesLost with ⟨line, member, lost⟩
    rw [Ledger.post_apply] at succeeded
    have accepted := built.sound.verdict_ok_iff_accepts.mp succeeded
    exact lost ((computable line.accountId).mp (accepted.computable line member))

/-- Two initial deposits on one account, of which the second does not fit. -/
def overflowingRun : List Request :=
  [addSample 11 "219871289",
    postSample 21 { initialDeposit := true }
      [sampleLine .achCredit ⟨0x7fffffffffffffff, by decide, by decide⟩ 11],
    postSample 22 { initialDeposit := true }
      [sampleLine .achCredit ⟨101, by decide, by decide⟩ 11]]

theorem not_computable_overflowingRun :
    ¬ ∀ (guard : OverdraftGuard) (requests : List Request),
      ∀ account ∈ (reached guard requests).accounts,
        ((reached guard requests).balanceOf? account.id).isSome := by
  intro computable
  have all := computable sampleGuard overflowingRun
  exact absurd all (by decide)

end DepositLedger.Memory
