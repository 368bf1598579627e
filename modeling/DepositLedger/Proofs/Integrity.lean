import DepositLedger.Proofs.Conditions
import DepositLedger.Proofs.Runs

/-! What holds of every ledger that was built by adding accounts and posting
transactions: its keys are unique, every line belongs to a header and to an account,
every header has a line, and all of them passed their checks. -/

namespace DepositLedger.Memory

namespace Ledger

structure Sound (ledger : Ledger) : Prop where
  accountIds : (ledger.accounts.map (·.id)).Nodup
  accountNumbers :
    (ledger.accounts.map fun account => (account.accountNumber, account.routingNumber)).Nodup
  headerIds : (ledger.headers.map (·.transactionId)).Nodup
  lineKeys : (ledger.lines.map PostedLine.key).Nodup
  lineHeader : ∀ posted ∈ ledger.lines,
    ∃ header ∈ ledger.headers, header.transactionId = posted.transactionId
  lineAccount : ∀ posted ∈ ledger.lines,
    ∃ account ∈ ledger.accounts, account.id = posted.line.accountId
  headerLine : ∀ header ∈ ledger.headers,
    ∃ posted ∈ ledger.lines, posted.transactionId = header.transactionId
  headerSound : ∀ header ∈ ledger.headers,
    header.transactionId ≠ EntityId.nil ∧ header.timestamp ≠ Timestamp.epoch
  lineSound : ∀ posted ∈ ledger.lines, posted.line.Sound

namespace Sound

variable {ledger added : Ledger}

/-- A line with a key that no header has yet cannot be in the ledger. -/
private theorem hasLine_eq_false (sound : ledger.Sound) {transactionId : TransactionId}
    (fresh : ∀ header ∈ ledger.headers, header.transactionId ≠ transactionId)
    (accountId : AccountId) : hasLine ledger.lines transactionId accountId = false := by
  apply hasLine_eq_false_iff.mpr
  intro posted member same
  rcases sound.lineHeader posted member with ⟨header, headerMember, headerSame⟩
  exact (fresh header headerMember (headerSame.trans same)).elim

theorem verdict_ok_iff_accepts (sound : ledger.Sound) {guard : OverdraftGuard}
    {transaction : Transaction} {options : PostingOptions} :
    ledger.verdict guard transaction options = .ok () ↔
      ledger.Accepts guard transaction options := by
  rw [verdict_ok_iff]
  exact ⟨And.left, fun accepted =>
    ⟨accepted, fun line _ => sound.hasLine_eq_false accepted.fresh line.accountId⟩⟩

theorem account?_eq (sound : ledger.Sound) {account : Account}
    (stored : account ∈ ledger.accounts) : ledger.account? account.id = some account :=
  (find?_key_eq_some_iff sound.accountIds).mpr ⟨stored, rfl⟩

theorem accountsById_of_mem (sound : ledger.Sound) {account : Account}
    (stored : account ∈ ledger.accounts) :
    ledger.accountsById [account.id] = (ledger.readAccount account).map ([·]) := by
  rw [accountsById, List.filterMap_cons_some (sound.account?_eq stored), List.filterMap_nil,
    List.mapM_cons, List.mapM_nil]
  cases ledger.readAccount account <;> rfl

/-- Nothing has been posted on an account that is not stored. -/
theorem movementsOf_eq_nil (sound : ledger.Sound) {accountId : AccountId}
    (absent : ∀ account ∈ ledger.accounts, account.id ≠ accountId) :
    movementsOf ledger.lines accountId = [] := by
  apply Memory.movementsOf_eq_nil
  intro posted member same
  rcases sound.lineAccount posted member with ⟨account, stored, id⟩
  exact absent account stored (id.trans same)

theorem empty : ({} : Ledger).Sound where
  accountIds := .nil
  accountNumbers := .nil
  headerIds := .nil
  lineKeys := .nil
  lineHeader := fun _ member => nomatch member
  lineAccount := fun _ member => nomatch member
  headerLine := fun _ member => nomatch member
  headerSound := fun _ member => nomatch member
  lineSound := fun _ member => nomatch member

theorem addAccount (sound : ledger.Sound) {customerId : CustomerId} {account : Account}
    (stored : ledger.addAccount customerId account = .ok added) : added.Sound := by
  rcases addAccount_ok_iff.mp stored with ⟨newNumber, newId, rfl⟩
  exact {
    sound with
    accountIds := nodup_keys_concat sound.accountIds newId
    accountNumbers := nodup_keys_concat sound.accountNumbers newNumber
    lineAccount := fun posted member => by
      rcases sound.lineAccount posted member with ⟨earlier, earlierStored, same⟩
      exact ⟨earlier, List.mem_append_left _ earlierStored, same⟩ }

theorem posted (sound : ledger.Sound) {guard : OverdraftGuard} {transaction : Transaction}
    {options : PostingOptions} (accepted : ledger.Accepts guard transaction options) :
    (ledger.posted transaction).Sound := by
  have shaped := Transaction.shaped_of_checkFor accepted.checked
  have kept : ∀ {posted}, posted ∈ (ledger.posted transaction).lines ↔
      posted ∈ ledger.lines ∨
        (posted.transactionId = transaction.id ∧ posted.line ∈ transaction.lines) :=
    List.mem_append.trans (or_congr_right mem_keepLines)
  have named : ∀ {header}, header ∈ (ledger.posted transaction).headers ↔
      header ∈ ledger.headers ∨ header = ⟨transaction.id, transaction.timestamp⟩ :=
    List.mem_append.trans (or_congr_right List.mem_singleton)
  have newHeader : (⟨transaction.id, transaction.timestamp⟩ : Header) ∈
      (ledger.posted transaction).headers := named.mpr (Or.inr rfl)
  exact {
    accountIds := sound.accountIds
    accountNumbers := sound.accountNumbers
    headerIds := nodup_keys_concat sound.headerIds accepted.fresh
    lineKeys := by
      have newKeys : (keepLines transaction.id transaction.lines).map PostedLine.key =
          (transaction.lines.map (·.accountId)).map fun accountId =>
            (transaction.id, accountId) := by
        simp [keepLines, PostedLine.key, Function.comp_def]
      have newDistinct :
          ((keepLines transaction.id transaction.lines).map PostedLine.key).Nodup := by
        rw [newKeys]
        exact accepted.distinct.map fun _ _ same => (Prod.mk.inj same).2
      apply nodup_keys_append sound.lineKeys newDistinct
      intro posted member new newMember same
      rcases sound.lineHeader posted member with ⟨header, headerMember, headerSame⟩
      have reused : posted.transactionId = transaction.id :=
        (congrArg Prod.fst same).trans (mem_keepLines.mp newMember).1
      exact accepted.fresh header headerMember (headerSame.trans reused)
    lineHeader := fun posted member => by
      rcases kept.mp member with earlier | ⟨same, _⟩
      · rcases sound.lineHeader posted earlier with ⟨header, headerMember, headerSame⟩
        exact ⟨header, named.mpr (Or.inl headerMember), headerSame⟩
      · exact ⟨_, newHeader, same.symm⟩
    lineAccount := fun posted member => by
      rcases kept.mp member with earlier | ⟨_, lineMember⟩
      · exact sound.lineAccount posted earlier
      · exact accepted.stored posted.line lineMember
    headerLine := fun header member => by
      rcases named.mp member with earlier | rfl
      · rcases sound.headerLine header earlier with ⟨posted, postedMember, same⟩
        exact ⟨posted, kept.mpr (Or.inl postedMember), same⟩
      · rcases List.exists_mem_of_ne_nil _ shaped.nonempty with ⟨line, lineMember⟩
        exact ⟨⟨transaction.id, line⟩, kept.mpr (Or.inr ⟨rfl, lineMember⟩), rfl⟩
    headerSound := fun header member => by
      rcases named.mp member with earlier | rfl
      · exact sound.headerSound header earlier
      · exact ⟨shaped.named, shaped.dated⟩
    lineSound := fun posted member => by
      rcases kept.mp member with earlier | ⟨_, lineMember⟩
      · exact sound.lineSound posted earlier
      · exact shaped.lines posted.line lineMember }

end Sound

theorem Built.sound {guard : OverdraftGuard} {ledger : Ledger} {earlier : List AcceptedPosting}
    (built : ledger.Built guard earlier) : ledger.Sound := by
  induction built with
  | empty => exact .empty
  | account _ stored sound => exact sound.addAccount stored
  | posting _ passed sound => exact sound.posted (sound.verdict_ok_iff_accepts.mp passed)

/-- Postings are accepted on sound ledgers by their rules. -/
theorem Built.accepts {guard : OverdraftGuard} {ledger : Ledger} {earlier : List AcceptedPosting}
    (built : ledger.Built guard earlier) :
    ∀ posting ∈ earlier,
      posting.ledger.Accepts guard posting.transaction posting.options := by
  induction built with
  | empty => exact fun _ member => nomatch member
  | account _ _ induction => exact induction
  | posting built passed induction =>
      exact List.forall_mem_append.mpr ⟨induction,
        List.forall_mem_singleton.mpr (built.sound.verdict_ok_iff_accepts.mp passed)⟩

end Ledger

/-- Whatever is asked of a ledger, and whether or not it succeeds, the ledger stays sound. -/
theorem sound_reached (guard : OverdraftGuard) (requests : List Request) :
    (reached guard requests).Sound :=
  (built_reached guard requests).sound

end DepositLedger.Memory
