import DepositLedger.Proofs.Integrity

/-! The journal of a ledger: the transactions that were posted, in the order they were
committed. A ledger keeps headers and lines apart. In one that was built by posting they
are the headers and lines of a journal, and a transaction is looked up there. -/

namespace DepositLedger

open Memory

namespace Transaction

def header (transaction : Transaction) : Header :=
  ⟨transaction.id, transaction.timestamp⟩

/-- The lines as they are committed. -/
def kept (transaction : Transaction) : List PostedLine :=
  keepLines transaction.id transaction.lines

theorem map_line_kept (transaction : Transaction) :
    transaction.kept.map (·.line) = transaction.lines := by
  simp [kept, keepLines, Function.comp_def]

/-- The transaction has a line on the account. -/
def touches (transaction : Transaction) (accountId : AccountId) : Bool :=
  transaction.lines.any (·.accountId == accountId)

/-- Where all accounts differ, there is one line on an account or none. -/
private theorem ids_on_account {transaction : Transaction}
    (distinct : (transaction.lines.map (·.accountId)).Nodup) (accountId : AccountId) :
    (transaction.kept.filter (·.line.accountId == accountId)).map (·.transactionId) =
      if transaction.touches accountId then [transaction.id] else [] := by
  have kept : (transaction.kept.filter (·.line.accountId == accountId)).map (·.transactionId) =
      (transaction.lines.filter (·.accountId == accountId)).map fun _ => transaction.id := by
    rw [Transaction.kept, keepLines, List.filter_map, List.map_map]
    rfl
  rw [kept]
  cases touched : transaction.touches accountId with
  | false =>
      rw [touches, List.any_eq_false] at touched
      rw [List.filter_eq_nil_iff.mpr touched]
      rfl
  | true =>
      rw [touches, List.any_eq_true] at touched
      rcases touched with ⟨line, member, onAccount⟩
      have only : transaction.lines.filter (·.accountId == accountId) = [line] :=
        filter_eq_singleton distinct member onAccount fun other otherOnAccount =>
          (beq_iff_eq.mp otherOnAccount).trans (beq_iff_eq.mp onAccount).symm
      rw [only]
      rfl

end Transaction

namespace Memory

/-- The ledger has the headers and the lines of these transactions and no others. -/
structure Ledger.Holds (ledger : Ledger) (journal : List Transaction) : Prop where
  headers : ledger.headers = journal.map Transaction.header
  lines : ledger.lines = journal.flatMap Transaction.kept

namespace Ledger

variable {ledger added : Ledger} {journal : List Transaction}

private theorem Holds.empty : ({} : Ledger).Holds [] where
  headers := rfl
  lines := rfl

theorem Holds.addAccount (holds : ledger.Holds journal) {customerId : CustomerId}
    {account : Account} (stored : ledger.addAccount customerId account = .ok added) :
    added.Holds journal := by
  rcases addAccount_ok_iff.mp stored with ⟨_, _, rfl⟩
  exact ⟨holds.headers, holds.lines⟩

theorem Holds.posted (holds : ledger.Holds journal) (transaction : Transaction) :
    (ledger.posted transaction).Holds (journal ++ [transaction]) where
  headers := by
    rw [List.map_append, ← holds.headers]
    rfl
  lines := by
    rw [List.flatMap_append, ← holds.lines, List.flatMap_singleton]
    rfl

/-- A built ledger holds the transactions of its accepted postings. -/
theorem Built.holds {guard : OverdraftGuard} {earlier : List AcceptedPosting}
    (built : ledger.Built guard earlier) : ledger.Holds (earlier.map (·.transaction)) := by
  induction built with
  | empty => exact .empty
  | account _ stored holds => exact holds.addAccount stored
  | posting _ _ holds =>
      rw [List.map_append]
      exact holds.posted _

theorem Holds.nodup_ids (holds : ledger.Holds journal) (sound : ledger.Sound) :
    (journal.map (·.id)).Nodup := by
  have distinct := sound.headerIds
  rw [holds.headers, List.map_map] at distinct
  exact distinct

/-- The lines under an identifier are those of the one transaction that has it. -/
private theorem filter_lines_eq {transaction : Transaction} (distinct : (journal.map (·.id)).Nodup)
    (member : transaction ∈ journal) :
    (journal.flatMap Transaction.kept).filter (·.transactionId == transaction.id) =
      transaction.kept := by
  apply filter_flatMap_key distinct _ member
  intro other posted postedMember
  exact (mem_keepLines.mp postedMember).1

/-- A transaction is found as it was posted. -/
theorem Holds.transaction?_eq (holds : ledger.Holds journal) (sound : ledger.Sound)
    (id : TransactionId) : ledger.transaction? id = journal.find? (·.id == id) := by
  have distinct := holds.nodup_ids sound
  rw [transaction?, holds.headers, holds.lines, List.find?_map]
  have same : ((fun header : Header => header.transactionId == id) ∘ Transaction.header) =
      fun transaction => transaction.id == id := rfl
  rw [same]
  cases found : journal.find? (·.id == id) with
  | none => rfl
  | some transaction =>
      have named : transaction.id = id := by simpa using List.find?_some found
      rw [← named, filter_lines_eq distinct (List.mem_of_find?_eq_some found),
        Transaction.map_line_kept]
      rfl

theorem Holds.transaction?_eq_some_iff (holds : ledger.Holds journal) (sound : ledger.Sound)
    {id : TransactionId} {transaction : Transaction} :
    ledger.transaction? id = some transaction ↔ transaction ∈ journal ∧ transaction.id = id := by
  rw [holds.transaction?_eq sound]
  exact find?_key_eq_some_iff (holds.nodup_ids sound)

/-- The lines of a transaction are on different accounts. -/
theorem Holds.nodup_accounts (holds : ledger.Holds journal) (sound : ledger.Sound)
    {transaction : Transaction} (member : transaction ∈ journal) :
    (transaction.lines.map (·.accountId)).Nodup := by
  have keys := sound.lineKeys
  rw [holds.lines, List.map_flatMap, List.nodup_flatMap] at keys
  have own := keys.1 transaction member
  rw [Transaction.kept, keepLines, List.map_map] at own
  have pairs : PostedLine.key ∘ (fun line => ⟨transaction.id, line⟩) =
      (fun accountId => (transaction.id, accountId)) ∘
        fun line : TransactionLine => line.accountId := rfl
  rw [pairs, ← List.map_map] at own
  exact own.of_map _

/-- The lines on an account name the transactions that touch it, each once. -/
theorem Holds.ids_on_account (holds : ledger.Holds journal) (sound : ledger.Sound)
    (accountId : AccountId) :
    (ledger.lines.filter (·.line.accountId == accountId)).map (·.transactionId) =
      (journal.filter (·.touches accountId)).map (·.id) := by
  rw [holds.lines, List.filter_flatMap, List.map_flatMap, List.flatMap_congr fun _ member =>
    Transaction.ids_on_account (holds.nodup_accounts sound member) accountId]
  clear holds
  induction journal with
  | nil => rfl
  | cons transaction rest induction =>
      rw [List.flatMap_cons, induction, List.filter_cons]
      split <;> rfl

theorem Holds.history_eq (holds : ledger.Holds journal) (sound : ledger.Sound)
    (accountId : AccountId) :
    ledger.history accountId = (journal.filter (·.touches accountId)).reverse.mergeSort
      fun first second => second.timestamp ≤ first.timestamp := by
  have distinct : ((journal.filter (·.touches accountId)).map (·.id)).Nodup :=
    (holds.nodup_ids sound).sublist (List.filter_sublist.map _)
  have found : ((journal.filter (·.touches accountId)).map (·.id)).filterMap
      ledger.transaction? = journal.filter (·.touches accountId) := by
    rw [List.filterMap_map]
    refine (List.filterMap_congr fun transaction member => ?_).trans List.filterMap_some
    exact (holds.transaction?_eq_some_iff sound).mpr ⟨(List.mem_filter.mp member).1, rfl⟩
  rw [history, holds.ids_on_account sound, eraseDups_of_nodup distinct, found]

end Ledger

end Memory

end DepositLedger
