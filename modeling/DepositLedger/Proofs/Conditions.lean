import DepositLedger.Proofs.Lookup

/-! When a posting is accepted, in terms of what is committed and of one line at a
time: no line's condition mentions another line, except that all accounts differ. -/

namespace DepositLedger

open Memory

/-- An initial deposit of one line above the amount up to which its account is checked. -/
def Transaction.IsLargeDeposit (transaction : Transaction) (options : PostingOptions) : Prop :=
  options.initialDeposit = true ∧
    ∃ line, transaction.lines = [line] ∧ uncheckedDeposit < line.amount.value

instance (transaction : Transaction) (options : PostingOptions) :
    Decidable (transaction.IsLargeDeposit options) :=
  match linesOf : transaction.lines with
  | [line] =>
    decidable_of_iff (options.initialDeposit = true ∧ uncheckedDeposit < line.amount.value) <| by
      simp [Transaction.IsLargeDeposit, linesOf]
  | [] => isFalse <| by simp [Transaction.IsLargeDeposit, linesOf]
  | _ :: _ :: _ => isFalse <| by simp [Transaction.IsLargeDeposit, linesOf]

namespace Memory.Ledger

/-- The balance of a line's account stays in range with the line, and where funds are
checked it is above zero and above what an ACH debit takes. -/
def Affords (ledger : Ledger) (checksFunds : Prop) (line : TransactionLine) : Prop :=
  ∃ old, ledger.balanceOf? line.accountId = some old ∧
    -0x8000000000000000 ≤ old.value + line.signed ∧ old.value + line.signed < 0x8000000000000000 ∧
    (checksFunds → 0 < old.value + line.signed ∧
      (line.purpose = .achDebit → line.amount.value < old.value + line.signed))

/-- What it takes for a transaction to be posted. -/
structure Accepts (ledger : Ledger) (guard : OverdraftGuard) (transaction : Transaction)
    (options : PostingOptions) : Prop where
  checked : transaction.checkFor options = .ok ()
  stored : ∀ line ∈ transaction.lines, ∃ account ∈ ledger.accounts, account.id = line.accountId
  computable : ∀ line ∈ transaction.lines, (ledger.balanceOf? line.accountId).isSome
  fresh : ∀ header ∈ ledger.headers, header.transactionId ≠ transaction.id
  distinct : (transaction.lines.map (·.accountId)).Nodup
  startsWithCredit : options.initialDeposit = true →
    ∀ first ∈ transaction.lines.head?, first.purpose = .achCredit
  affordable : ¬ transaction.IsLargeDeposit options → ∀ line ∈ transaction.lines,
    ledger.Affords (options.allowOverdraft = false ∧ ledger.GuardsFunds guard transaction) line

end Memory.Ledger

theorem isCovered_iff (balance : Cents) (line : TransactionLine) :
    isCovered balance line = true ↔
      0 < balance.value ∧ (line.purpose = .achDebit → line.amount.value < balance.value) := by
  by_cases debit : line.purpose = .achDebit
  · simp [isCovered, debit]
  · simp [isCovered, debit]

namespace PostingRules

private theorem checkVerdict_ok_iff {rules : PostingRules} {ledger : Ledger}
    {line : TransactionLine}
    (sound : line.Sound) (computable : (ledger.balanceOf? line.accountId).isSome) :
    rules.checkVerdict ledger line = .ok () ↔
      rules.wrongDeposit = false ∧
        (rules.skipsBalance = false → ledger.Affords (rules.checksFunds = true) line) := by
  rcases Option.isSome_iff_exists.mp computable with ⟨old, oldFound⟩
  rw [checkVerdict, balance?_concat_of_pos _ sound.positive]
  rw [Ledger.Affords, oldFound]
  rw [Ledger.balanceOf?] at oldFound
  rw [oldFound, Option.bind_some]
  cases rules.wrongDeposit with
  | true => simp
  | false =>
      cases rules.skipsBalance with
      | true => simp
      | false =>
          simp only [Bool.false_eq_true, if_false, true_and, forall_const]
          cases added : Cents.ofInt? (old.value + line.signed) with
          | none =>
              have outside := Cents.ofInt?_eq_none_iff.mp added
              simp only [reduceCtorEq, false_iff]
              intro affords
              rcases affords with ⟨_, same, above, below, _⟩
              cases same
              exact outside ⟨above, below⟩
          | some new =>
              have value := Cents.ofInt?_eq_some_iff.mp added
              have bounds := new.in_range
              rw [value] at bounds
              have covered := isCovered_iff new line
              rw [value] at covered
              simp only [Option.some.injEq, exists_eq_left', ← covered, bounds.1, bounds.2,
                true_and]
              cases rules.checksFunds <;> cases isCovered new line <;> simp

variable {guard : OverdraftGuard} {transaction : Transaction} {options : PostingOptions}
  {accounts : List Account} {first : TransactionLine}

private theorem of_wrongDeposit_eq_false_iff :
    (PostingRules.of guard transaction options accounts first).wrongDeposit = false ↔
      (options.initialDeposit = true → first.purpose = .achCredit) := by
  rw [PostingRules.of]
  cases options.initialDeposit <;> simp

theorem of_skipsBalance_eq_false_iff {rest : List TransactionLine}
    (linesOf : transaction.lines = first :: rest) :
    (PostingRules.of guard transaction options accounts first).skipsBalance = false ↔
      ¬ transaction.IsLargeDeposit options := by
  rw [Transaction.IsLargeDeposit, PostingRules.of, linesOf]
  cases options.initialDeposit <;> cases rest <;> simp

theorem of_checksFunds_iff {ledger : Ledger}
    (read : ledger.accountsById transaction.touchedAccounts = .ok accounts)
    (noneMissing : firstMissing? transaction.touchedAccounts accounts = none) :
    (PostingRules.of guard transaction options accounts first).checksFunds = true ↔
      options.allowOverdraft = false ∧ ledger.GuardsFunds guard transaction := by
  rw [← Ledger.checksFunds_iff read noneMissing]
  rw [PostingRules.of]
  cases options.allowOverdraft <;> simp

end PostingRules

namespace Memory.Ledger

variable {ledger : Ledger} {guard : OverdraftGuard} {transaction : Transaction}
  {options : PostingOptions}

theorem forall_touchedAccounts_iff {Holds : AccountId → Prop} :
    (∀ id ∈ transaction.touchedAccounts, Holds id) ↔
      ∀ line ∈ transaction.lines, Holds line.accountId := by
  simp [Transaction.touchedAccounts, List.mem_eraseDups]

theorem writtenVerdict_of_cons {accounts : List Account} {first : TransactionLine}
    {rest : List TransactionLine} (free : hasHeader ledger.headers transaction.id = false)
    (linesOf : transaction.lines = first :: rest) :
    ledger.writtenVerdict guard transaction options accounts =
      (PostingRules.of guard transaction options accounts first).linesVerdict ledger []
        transaction.lines := by
  rw [writtenVerdict, free, if_neg Bool.false_ne_true, linesOf]

private theorem writtenVerdict_ok_iff {accounts : List Account} (shaped : transaction.Shaped)
    (read : ledger.accountsById transaction.touchedAccounts = .ok accounts)
    (noneMissing : firstMissing? transaction.touchedAccounts accounts = none)
    (computable : ∀ line ∈ transaction.lines, (ledger.balanceOf? line.accountId).isSome) :
    ledger.writtenVerdict guard transaction options accounts = .ok () ↔
      (∀ header ∈ ledger.headers, header.transactionId ≠ transaction.id) ∧
      (∀ line ∈ transaction.lines,
        hasLine ledger.lines transaction.id line.accountId = false) ∧
      (transaction.lines.map (·.accountId)).Nodup ∧
      (options.initialDeposit = true →
        ∀ first ∈ transaction.lines.head?, first.purpose = .achCredit) ∧
      (¬ transaction.IsLargeDeposit options → ∀ line ∈ transaction.lines, ledger.Affords
        (options.allowOverdraft = false ∧ ledger.GuardsFunds guard transaction) line) := by
  rw [← hasHeader_eq_false_iff]
  cases taken : hasHeader ledger.headers transaction.id with
  | true => simp [writtenVerdict, taken]
  | false =>
      rcases List.exists_cons_of_ne_nil shaped.nonempty with ⟨first, rest, linesOf⟩
      have funds : (PostingRules.of guard transaction options accounts first).checksFunds = true ↔
          _ := PostingRules.of_checksFunds_iff read noneMissing
      have checks : ∀ line ∈ transaction.lines,
          ((PostingRules.of guard transaction options accounts first).checkVerdict ledger line =
              .ok () ↔
            (options.initialDeposit = true → first.purpose = .achCredit) ∧
            (¬ transaction.IsLargeDeposit options → ledger.Affords
              (options.allowOverdraft = false ∧ ledger.GuardsFunds guard transaction) line)) := by
        intro line member
        rw [PostingRules.checkVerdict_ok_iff (shaped.lines line member) (computable line member),
          PostingRules.of_wrongDeposit_eq_false_iff,
          PostingRules.of_skipsBalance_eq_false_iff linesOf, propext funds]
      have same : (PostingRules.of guard transaction options accounts first).transactionId =
          transaction.id := rfl
      have deposit : (∀ other ∈ transaction.lines.head?, other.purpose = .achCredit) ↔
          first.purpose = .achCredit := by
        simp [linesOf]
      have firstMember : first ∈ transaction.lines := by simp [linesOf]
      -- The rule on the first line is checked with every line; there is one to check it with.
      rw [writtenVerdict_of_cons taken linesOf, PostingRules.linesVerdict_ok_iff, same, deposit]
      simp only [List.not_mem_nil, false_imp_iff, implies_true, true_and]
      constructor
      · intro passed
        rcases passed with ⟨each, distinct⟩
        refine ⟨fun line member => (each line member).1, distinct, ?_, ?_⟩
        · exact ((checks first firstMember).mp (each first firstMember).2).1
        · exact fun small line member => ((checks line member).mp (each line member).2).2 small
      · intro holds
        rcases holds with ⟨free, distinct, starts, affords⟩
        exact ⟨fun line member => ⟨free line member,
          (checks line member).mpr ⟨starts, fun small => affords small line member⟩⟩, distinct⟩

/-- A transaction passes if the ledger accepts it and has no line under its identifier. -/
theorem verdict_ok_iff :
    ledger.verdict guard transaction options = .ok () ↔
      ledger.Accepts guard transaction options ∧
        ∀ line ∈ transaction.lines,
          hasLine ledger.lines transaction.id line.accountId = false := by
  rw [verdict]
  rcases checked : transaction.checkFor options with fault | ⟨⟨⟩⟩
  · constructor
    · intro passed
      cases passed
    · intro accepted
      have impossible := checked.symm.trans accepted.1.checked
      cases impossible
  · have shaped := Transaction.shaped_of_checkFor checked
    have known := @exists_accountsById_iff ledger transaction.touchedAccounts
    rw [forall_touchedAccounts_iff] at known
    dsimp only
    constructor
    · intro passed
      rcases read : ledger.accountsById transaction.touchedAccounts with fault | accounts
      · rw [read] at passed
        cases passed
      · rw [read] at passed
        dsimp only at passed
        rcases noneMissing : firstMissing? transaction.touchedAccounts accounts with _ | missing
        · rw [noneMissing] at passed
          have each := known.mp ⟨accounts, read, noneMissing⟩
          have computable := fun line member => (each line member).2
          rcases (writtenVerdict_ok_iff shaped read noneMissing computable).mp passed with
            ⟨fresh, free, distinct, starts, affords⟩
          exact ⟨⟨checked, fun line member => isSome_account?_iff.mp (each line member).1,
            computable, fresh, distinct, starts, affords⟩, free⟩
        · rw [noneMissing] at passed
          cases passed
    · intro holds
      rcases holds with ⟨accepted, free⟩
      rcases known.mpr fun line member => ⟨isSome_account?_iff.mpr (accepted.stored line member),
        accepted.computable line member⟩ with ⟨accounts, read, noneMissing⟩
      rw [read]
      dsimp only
      rw [noneMissing]
      exact (writtenVerdict_ok_iff shaped read noneMissing accepted.computable).mpr
        ⟨accepted.fresh, free, accepted.distinct, accepted.startsWithCredit, accepted.affordable⟩

end Memory.Ledger

end DepositLedger
