import DepositLedger.Proofs.Opening

/-! Postings that are refused for want of funds. Funds are checked for all lines of a transaction
or for none, and the first ACH debit decides which. Where they are checked, the account that is
refused may be held by another bank: a debit that is not the first one is checked on it, and a
credit that leaves it below zero. -/

namespace DepositLedger

open Memory

namespace PostingRules

variable {rules : PostingRules} {ledger : Ledger}

/-- Lines are refused as one of them is. -/
theorem exists_lineVerdict_eq_error {earlier lines : List TransactionLine} {fault : LedgerFault}
    (refused : rules.linesVerdict ledger earlier lines = .error fault) :
    ∃ line ∈ lines, ∃ before, rules.lineVerdict ledger before line = .error fault := by
  induction lines generalizing earlier with
  | nil =>
      rw [linesVerdict] at refused
      cases refused
  | cons line rest induction =>
      rw [linesVerdict] at refused
      cases outcome : rules.lineVerdict ledger earlier line with
      | error first =>
          rw [outcome] at refused
          cases refused
          exact ⟨line, List.mem_cons_self, earlier, outcome⟩
      | ok =>
          rw [outcome] at refused
          rcases induction refused with ⟨other, member, before, otherRefused⟩
          exact ⟨other, List.mem_cons_of_mem _ member, before, otherRefused⟩

variable {earlier : List TransactionLine} {line : TransactionLine} {accountId : AccountId}
  {balance amount : Cents}

/-- A line is refused for want of funds only where they are checked, with the balance that it
would leave. -/
private theorem lineVerdict_eq_insufficientFunds
    (refused : rules.lineVerdict ledger earlier line =
      .error (.insufficientFunds accountId balance amount)) :
    rules.checksFunds = true ∧ line.accountId = accountId ∧ line.amount = amount ∧
      balance? (movementsOf ledger.lines line.accountId ++ [line.toMovement]) = some balance ∧
      isCovered balance line = false := by
  rw [lineVerdict] at refused
  split at refused
  · cases refused
  · rw [checkVerdict] at refused
    split at refused
    · cases refused
    · split at refused
      · cases refused
      · split at refused
        · cases refused
        · rename_i new computed
          split at refused
          · rename_i short
            cases refused
            rw [Bool.and_eq_true, Bool.not_eq_true'] at short
            exact ⟨short.1, rfl, rfl, computed, short.2⟩
          · cases refused

end PostingRules

namespace Memory

namespace Ledger

/-- A line of a transaction whose funds are checked, and which leaves too little on its account:
not more than zero or, as an ACH debit, not more than it takes. -/
structure ShortOn (ledger : Ledger) (guard : OverdraftGuard) (transaction : Transaction)
    (options : PostingOptions) (account : Account) (line : TransactionLine) (balance : Cents) :
    Prop where
  stored : account ∈ ledger.accounts
  member : line ∈ transaction.lines
  onAccount : line.accountId = account.id
  sound : line.Sound
  forbidden : options.allowOverdraft = false
  guarded : ledger.GuardsFunds guard transaction
  left : balance.value = ledger.exactBalance account.id + line.signed
  uncovered : isCovered balance line = false

variable {ledger added : Ledger} {guard : OverdraftGuard} {transaction : Transaction}
  {options : PostingOptions} {account : Account} {line : TransactionLine} {accountId : AccountId}
  {balance amount : Cents}

/-- Accounts cannot be read for one reason only. -/
private theorem readAll_eq_error {accounts : List Account} {fault : LedgerFault}
    (refused : accounts.mapM ledger.readAccount = .error fault) :
    ∃ account ∈ accounts, fault = .balanceOverflow account.id := by
  by_cases computable : ∀ account ∈ accounts, (ledger.balanceOf? account.id).isSome
  · rw [readAll_of_computable computable] at refused
    cases refused
  · have lost : ∃ account ∈ accounts, ledger.balanceOf? account.id = none := by
      simpa using computable
    rcases readAll_of_lost lost with ⟨account, member, _, read⟩
    rw [read] at refused
    cases refused
    exact ⟨account, member, rfl⟩

private theorem exists_shortOn_of_written {accounts : List Account} (shaped : transaction.Shaped)
    (read : ledger.accountsById transaction.touchedAccounts = .ok accounts)
    (noneMissing : firstMissing? transaction.touchedAccounts accounts = none)
    (refused : ledger.writtenVerdict guard transaction options accounts =
      .error (.insufficientFunds accountId balance amount)) :
    ∃ account line, account.id = accountId ∧ line.amount = amount ∧
      ledger.ShortOn guard transaction options account line balance := by
  cases taken : hasHeader ledger.headers transaction.id with
  | true =>
      rw [writtenVerdict, taken, if_pos rfl] at refused
      cases refused
  | false =>
      rcases List.exists_cons_of_ne_nil shaped.nonempty with ⟨first, rest, linesOf⟩
      rw [writtenVerdict_of_cons taken linesOf] at refused
      rcases PostingRules.exists_lineVerdict_eq_error refused with
        ⟨line, member, before, lineRefused⟩
      rcases PostingRules.lineVerdict_eq_insufficientFunds lineRefused with
        ⟨checks, rfl, rfl, computed, uncovered⟩
      rcases (PostingRules.of_checksFunds_iff read noneMissing).mp checks with
        ⟨forbidden, guarded⟩
      have known := forall_touchedAccounts_iff.mp ((firstMissing?_eq_none_iff read).mp noneMissing)
      rcases isSome_account?_iff.mp (known line member) with ⟨account, stored, same⟩
      have left : balance.value = ledger.exactBalance account.id + line.signed := by
        rw [balance?_value computed, exactTotal_append, same]
        simp [exactBalance]
      exact ⟨account, line, same, rfl, stored, member, same.symm, shaped.lines line member,
        forbidden, guarded, left, uncovered⟩

/-- What is refused for want of funds is refused for one of its lines. -/
theorem exists_shortOn
    (refused : ledger.verdict guard transaction options =
      .error (.insufficientFunds accountId balance amount)) :
    ∃ account line, account.id = accountId ∧ line.amount = amount ∧
      ledger.ShortOn guard transaction options account line balance := by
  rw [verdict] at refused
  rcases checked : transaction.checkFor options with fault | ⟨⟨⟩⟩
  · rw [checked] at refused
    cases refused
  · rw [checked] at refused
    dsimp only at refused
    cases read : ledger.accountsById transaction.touchedAccounts with
    | error fault =>
        rcases readAll_eq_error read with ⟨lost, _, rfl⟩
        rw [read] at refused
        cases refused
    | ok accounts =>
        rw [read] at refused
        dsimp only at refused
        cases noneMissing : firstMissing? transaction.touchedAccounts accounts with
        | some missing =>
            rw [noneMissing] at refused
            cases refused
        | none =>
            rw [noneMissing] at refused
            exact exists_shortOn_of_written (Transaction.shaped_of_checkFor checked) read
              noneMissing refused

/-- A line that adds to its account falls short only where the account is below zero. -/
private theorem ShortOn.exactBalance_neg
    (short : ledger.ShortOn guard transaction options account line balance)
    (credit : line.purpose ≠ .achDebit) : ledger.exactBalance account.id < 0 := by
  have covered := isCovered_iff balance line
  rw [short.uncovered] at covered
  have notPositive : ¬ 0 < balance.value := fun positive =>
    Bool.false_ne_true (covered.mpr ⟨positive, fun debit => (credit debit).elim⟩)
  have left := short.left
  rw [Movement.signed_of_ne_achDebit credit] at left
  have positive := short.sound.positive
  omega

/-- Where funds are checked and there is an ACH debit, the first one is on a guarded account. -/
private theorem ShortOn.protects_of_first
    (short : ledger.ShortOn guard transaction options account line balance) (sound : ledger.Sound)
    (first : transaction.lines.find? (·.purpose == .achDebit) = some line) :
    guard.protects account = true := by
  rcases short.guarded line first with ⟨other, found, held⟩
  rw [short.onAccount, sound.account?_eq short.stored, Option.mem_some] at found
  rw [found]
  exact held

/-- What a refusal for want of funds says is said of a line that falls short. Its account is held
by the ledger's own bank, or it is debited after the first ACH debit, or credited below zero. -/
def RefusedOn (ledger : Ledger) (guard : OverdraftGuard) (transaction : Transaction)
    (options : PostingOptions) (accountId : AccountId) (balance amount : Cents) : Prop :=
  ∃ account line, account.id = accountId ∧ line.amount = amount ∧
    ledger.ShortOn guard transaction options account line balance ∧
    (guard.protects account = true ∨
      transaction.lines.find? (·.purpose == .achDebit) ≠ some line ∧
        (line.purpose = .achDebit ∨ ledger.exactBalance account.id < 0))

private theorem Sound.refusedOn (sound : ledger.Sound)
    (refused : ledger.verdict guard transaction options =
      .error (.insufficientFunds accountId balance amount)) :
    ledger.RefusedOn guard transaction options accountId balance amount := by
  rcases exists_shortOn refused with ⟨account, line, named, asked, short⟩
  refine ⟨account, line, named, asked, short, ?_⟩
  cases held : guard.protects account with
  | true => exact Or.inl rfl
  | false =>
      refine Or.inr ⟨fun first => ?_, ?_⟩
      · rw [short.protects_of_first sound first] at held
        cases held
      · by_cases debit : line.purpose = .achDebit
        · exact Or.inl debit
        · exact Or.inr (short.exactBalance_neg debit)

private theorem addAccount_ne_insufficientFunds {customerId : CustomerId} {given : Account} :
    ledger.addAccount customerId given ≠ .error (.insufficientFunds accountId balance amount) := by
  intro refused
  rw [addAccount] at refused
  split at refused
  · cases refused
  · split at refused
    · cases refused
    · cases refused

/-- The first money on an account is never short of funds. -/
theorem Sound.openWithDeposit_ne_insufficientFunds (sound : ledger.Sound)
    {customerId : CustomerId} {given : Account} {money : Cents} {stamp : Stamp} :
    ((operations guard).openWithDeposit customerId given money stamp ledger).1 ≠
      .error (.insufficientFunds accountId balance amount) := by
  intro refused
  rw [sound.openWithDeposit_apply] at refused
  cases stored : ledger.addAccount customerId given with
  | error fault =>
      rw [stored] at refused
      cases refused
      exact addAccount_ne_insufficientFunds stored
  | ok added =>
      rw [stored] at refused
      dsimp only at refused
      rcases outcome : added.verdict guard (Operations.openingDeposit given money stamp)
        { initialDeposit := true } with fault | ⟨⟨⟩⟩
      · rw [outcome] at refused
        cases refused
        rcases exists_shortOn outcome with ⟨account, line, _, _, short⟩
        have only : line = ⟨⟨.achCredit, money⟩, given.id⟩ := List.mem_singleton.mp short.member
        have below := short.exactBalance_neg (by rw [only]; exact (nomatch ·))
        have same : account.id = given.id := by rw [← short.onAccount, only]
        rw [same, ← balanceOf?_value (sound.balanceOf?_addAccount stored)] at below
        exact absurd below (by decide)
      · rw [outcome] at refused
        cases refused

end Ledger

/-- On the ledger of any run, a transaction is refused for want of funds on one of its stored
accounts, and only where funds are checked: it has no ACH debit, or the first one is on an account
of the ledger's own bank. That need not be the account that is refused. An account is never opened
with too little. -/
theorem refused_for_funds (guard : OverdraftGuard) (requests : List Request) :
    let ledger := reached guard requests
    (∀ transaction options recordedAt accountId balance amount,
      ((operations guard).post transaction options recordedAt ledger).1 =
          .error (.insufficientFunds accountId balance amount) →
        ledger.RefusedOn guard transaction options accountId balance amount) ∧
    (∀ id stamp accountId balance amount,
      ((operations guard).reverse id stamp ledger).1 =
          .error (.insufficientFunds accountId balance amount) →
        ∃ posted, ledger.transaction? id = some posted ∧
          ledger.RefusedOn guard (posted.reversal stamp.id stamp.timestamp) {} accountId balance
            amount) ∧
    ∀ customerId given money stamp accountId balance amount,
      ((operations guard).openWithDeposit customerId given money stamp ledger).1 ≠
        .error (.insufficientFunds accountId balance amount) := by
  intro ledger
  have sound : ledger.Sound := sound_reached guard requests
  refine ⟨?_, ?_, fun _ _ _ _ _ _ _ => sound.openWithDeposit_ne_insufficientFunds⟩
  · intro transaction options recordedAt accountId balance amount refused
    rw [Ledger.post_apply] at refused
    exact sound.refusedOn refused
  · intro id stamp accountId balance amount refused
    rw [reverse_apply] at refused
    cases found : ledger.transaction? id with
    | none =>
        rw [found] at refused
        cases refused
    | some posted =>
        rw [found] at refused
        refine ⟨posted, rfl, sound.refusedOn ?_⟩
        rcases outcome : ledger.verdict guard (posted.reversal stamp.id stamp.timestamp) {} with
          fault | ⟨⟨⟩⟩
        · simp only [outcome] at refused
          rw [Except.error.inj refused]
        · simp only [outcome] at refused
          cases refused

/-- Money comes from an account of another bank, which is then below zero. -/
def payInRun : List Request :=
  [addSample 11 "219871289", addSample 12 "121042882",
    postSample 21 {} [sampleLine .achDebit (sampleCents 100) 12,
      sampleLine .achCredit (sampleCents 100) 11]]

/-- Some of it goes back. -/
def payBack : Transaction where
  id := ⟨.ofNat 22⟩
  timestamp := .microsecondsInto2050 1
  lines := [sampleLine .achDebit ⟨20, by decide, by decide⟩ 11,
    sampleLine .achCredit ⟨20, by decide, by decide⟩ 12]

theorem not_protects_payBack :
    ¬ ∀ (guard : OverdraftGuard) (requests : List Request) (transaction : Transaction)
      (options : PostingOptions) (recordedAt : Timestamp) (accountId : AccountId)
      (balance amount : Cents),
      ((operations guard).post transaction options recordedAt (reached guard requests)).1 =
          .error (.insufficientFunds accountId balance amount) →
        ∃ account ∈ (reached guard requests).accounts,
          account.id = accountId ∧ guard.protects account = true := by
  intro protects
  have held := protects sampleGuard payInRun payBack {} (.microsecondsInto2050 2) ⟨.ofNat 12⟩
    ⟨-80, by decide, by decide⟩ ⟨20, by decide, by decide⟩ (by decide)
  exact absurd held (by decide)

end Memory

end DepositLedger
