import DepositLedger.Proofs.Journal

/-! The history of an account: the transactions of the journal with a line on it, the latest
first. They are sorted by time alone, after the journal has been turned round, so that of those
of one time the one that was committed later comes first. -/

namespace DepositLedger

section

variable {α : Type} {rows : List α} {first second : α}

/-- Of two rows one stands before the other. -/
private theorem pair_sublist_or (firstMember : first ∈ rows) (secondMember : second ∈ rows)
    (different : first ≠ second) :
    [first, second].Sublist rows ∨ [second, first].Sublist rows := by
  rcases List.append_of_mem firstMember with ⟨earlier, later, rfl⟩
  rcases List.mem_append.mp secondMember with before | after
  · have firstLast : [first].Sublist (first :: later) :=
      List.singleton_sublist.mpr List.mem_cons_self
    exact Or.inr ((List.singleton_sublist.mpr before).append firstLast)
  · have secondLast : second ∈ later :=
      (List.mem_cons.mp after).resolve_left different.symm
    have pair : [first, second].Sublist (first :: later) :=
      (List.singleton_sublist.mpr secondLast).cons_cons first
    exact Or.inl (List.sublist_append_of_sublist_right pair)

/-- Rows that are all different do not stand before each other. -/
private theorem not_pair_sublist (distinct : rows.Nodup) (before : [first, second].Sublist rows) :
    ¬ [second, first].Sublist rows := by
  induction rows with
  | nil => nomatch before
  | cons head rest induction =>
      rcases List.nodup_cons.mp distinct with ⟨headNew, restDistinct⟩
      intro after
      cases before with
      | cons _ before =>
          cases after with
          | cons _ after => exact induction restDistinct before after
          | cons_cons _ _ => exact headNew (before.subset (by simp))
      | cons_cons _ secondLater =>
          cases after with
          | cons _ after => exact headNew (after.subset (by simp))
          | cons_cons _ _ => exact headNew (secondLater.subset (by simp))

/-- Where rows are turned round and sorted, a row comes before another one that might as well
come before it only if it stood after it. -/
private theorem pair_sublist_of_mergeSort_reverse {le : α → α → Bool}
    (trans : ∀ first second third, le first second = true → le second third = true →
      le first third = true)
    (total : ∀ first second, (le first second || le second first) = true) (distinct : rows.Nodup)
    (sorted : [first, second].Sublist (rows.reverse.mergeSort le)) (tie : le second first = true) :
    [second, first].Sublist rows := by
  have sortedDistinct : (rows.reverse.mergeSort le).Nodup :=
    (List.mergeSort_perm _ _).nodup_iff.mpr (List.nodup_reverse.mpr distinct)
  have known : ∀ row ∈ [first, second], row ∈ rows := fun row member =>
    List.mem_reverse.mp (List.mem_mergeSort.mp (sorted.subset member))
  have different : first ≠ second := sortedDistinct.forall_sublist sorted
  rcases pair_sublist_or (known first (by simp)) (known second (by simp)) different with
    before | after
  · -- Turned round the second would come first, and sorting would have left that so.
    have turned : [second, first].Sublist rows.reverse := List.reverse_sublist.mpr before
    have kept := List.pair_sublist_mergeSort trans total tie turned
    exact (not_pair_sublist sortedDistinct sorted kept).elim
  · exact after

end

namespace Memory

namespace Ledger

variable {ledger : Ledger} {journal : List Transaction}

theorem Holds.history_perm (holds : ledger.Holds journal) (sound : ledger.Sound)
    (accountId : AccountId) :
    (ledger.history accountId).Perm (journal.filter (·.touches accountId)) := by
  rw [holds.history_eq sound]
  exact (List.mergeSort_perm _ _).trans (List.reverse_perm _)

private theorem Holds.mem_history_iff (holds : ledger.Holds journal) (sound : ledger.Sound)
    {accountId : AccountId} {transaction : Transaction} :
    transaction ∈ ledger.history accountId ↔
      transaction ∈ journal ∧ ∃ line ∈ transaction.lines, line.accountId = accountId := by
  rw [(holds.history_perm sound accountId).mem_iff, List.mem_filter, Transaction.touches,
    List.any_eq_true]
  simp only [beq_iff_eq]

private theorem Holds.nodup_history_ids (holds : ledger.Holds journal) (sound : ledger.Sound)
    (accountId : AccountId) : ((ledger.history accountId).map (·.id)).Nodup := by
  rw [((holds.history_perm sound accountId).map _).nodup_iff]
  exact (holds.nodup_ids sound).sublist (List.filter_sublist.map _)

/-- A later time comes first, and of one time what was committed later. -/
theorem Holds.history_pairwise (holds : ledger.Holds journal) (sound : ledger.Sound)
    (accountId : AccountId) :
    (ledger.history accountId).Pairwise fun first second =>
      second.timestamp ≤ first.timestamp ∧
        (second.timestamp = first.timestamp → [second, first].Sublist journal) := by
  have trans (first second third : Transaction)
      (firstLe : decide (second.timestamp ≤ first.timestamp) = true)
      (secondLe : decide (third.timestamp ≤ second.timestamp) = true) :
      decide (third.timestamp ≤ first.timestamp) = true := by
    rw [decide_eq_true_iff] at firstLe secondLe ⊢
    exact Int.le_trans secondLe firstLe
  have total (first second : Transaction) :
      (decide (second.timestamp ≤ first.timestamp) ||
        decide (first.timestamp ≤ second.timestamp)) = true := by
    rw [Bool.or_eq_true, decide_eq_true_iff, decide_eq_true_iff]
    exact Int.le_total _ _
  have distinct : (journal.filter (·.touches accountId)).Nodup :=
    (List.Nodup.of_map _ (holds.nodup_ids sound)).filter _
  rw [List.pairwise_iff_forall_sublist]
  intro first second sorted
  rw [holds.history_eq sound] at sorted
  constructor
  · exact of_decide_eq_true ((List.pairwise_mergeSort trans total _).forall_sublist sorted)
  · intro same
    have tie : decide (first.timestamp ≤ second.timestamp) = true := by
      rw [same, decide_eq_true_iff]
      exact Int.le_refl _
    exact (pair_sublist_of_mergeSort_reverse trans total distinct sorted tie).trans
      List.filter_sublist

end Ledger

/-- On the ledger of any run, the history of an account has each committed transaction with a
line on the account once and as it was posted. Later times come first, and of one time those
that were committed later. -/
theorem history_latest_first (guard : OverdraftGuard) (requests : List Request)
    (accountId : AccountId) :
    let ledger := reached guard requests
    let journal := (postings guard requests).map (·.transaction)
    ledger.Holds journal ∧
    ∃ listed, (operations guard).history accountId ledger = (.ok listed, ledger) ∧
      (∀ transaction, transaction ∈ listed ↔
        transaction ∈ journal ∧ ∃ line ∈ transaction.lines, line.accountId = accountId) ∧
      (listed.map (·.id)).Nodup ∧
      listed.Pairwise fun first second =>
        second.timestamp ≤ first.timestamp ∧
          (second.timestamp = first.timestamp → [second, first].Sublist journal) := by
  intro ledger journal
  have built : ledger.Built guard (postings guard requests) := built_reached guard requests
  have holds : ledger.Holds journal := built.holds
  exact ⟨holds, ledger.history accountId, rfl, fun transaction => holds.mem_history_iff built.sound,
    holds.nodup_history_ids built.sound accountId, holds.history_pairwise built.sound accountId⟩

end Memory

end DepositLedger
