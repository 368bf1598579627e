import DepositLedger.Proofs.Integrity

/-! Accepted postings. A posting is accepted exactly under the conditions of
`Accepts`, which look at no staged write, and it changes no account but its own. -/

namespace DepositLedger.Memory

namespace Ledger

variable {ledger : Ledger} {transaction : Transaction} {accountId : AccountId}

private theorem movementsOf_posted_of_mem {line : TransactionLine}
    (distinct : (transaction.lines.map (·.accountId)).Nodup) (member : line ∈ transaction.lines) :
    movementsOf (ledger.posted transaction).lines line.accountId =
      movementsOf ledger.lines line.accountId ++ [line.toMovement] := by
  rw [posted, movementsOf_append, movementsOf_keepLines_of_mem distinct member]

theorem movementsOf_posted_of_absent
    (absent : ∀ line ∈ transaction.lines, line.accountId ≠ accountId) :
    movementsOf (ledger.posted transaction).lines accountId =
      movementsOf ledger.lines accountId := by
  rw [posted, movementsOf_append, movementsOf_keepLines_eq_nil absent, List.append_nil]

theorem exactBalance_posted_of_mem {line : TransactionLine}
    (distinct : (transaction.lines.map (·.accountId)).Nodup) (member : line ∈ transaction.lines) :
    (ledger.posted transaction).exactBalance line.accountId =
      ledger.exactBalance line.accountId + line.signed := by
  rw [exactBalance, movementsOf_posted_of_mem distinct member, exactTotal_append]
  simp [exactBalance]

theorem exactBalance_posted_of_absent
    (absent : ∀ line ∈ transaction.lines, line.accountId ≠ accountId) :
    (ledger.posted transaction).exactBalance accountId = ledger.exactBalance accountId := by
  rw [exactBalance, movementsOf_posted_of_absent absent, exactBalance]

/-- What a line adds to a computed balance is computed, if it stays in range. -/
theorem balanceOf?_posted_of_mem {line : TransactionLine} {old : Cents} (sound : line.Sound)
    (distinct : (transaction.lines.map (·.accountId)).Nodup) (member : line ∈ transaction.lines)
    (computed : ledger.balanceOf? line.accountId = some old) :
    (ledger.posted transaction).balanceOf? line.accountId =
      Cents.ofInt? (old.value + line.signed) := by
  rw [balanceOf?] at computed
  rw [balanceOf?, movementsOf_posted_of_mem distinct member,
    balance?_concat_of_pos _ sound.positive, computed, Option.bind_some]

theorem balanceOf?_posted_of_absent
    (absent : ∀ line ∈ transaction.lines, line.accountId ≠ accountId) :
    (ledger.posted transaction).balanceOf? accountId = ledger.balanceOf? accountId := by
  rw [balanceOf?, movementsOf_posted_of_absent absent, balanceOf?]

/-- A posting that succeeds has been accepted and adds the transaction. -/
theorem Sound.post_ok (sound : ledger.Sound) {guard : OverdraftGuard} {options : PostingOptions}
    {recordedAt : Timestamp}
    (succeeded : ((operations guard).post transaction options recordedAt ledger).1 = .ok ()) :
    ledger.Accepts guard transaction options ∧
      ((operations guard).post transaction options recordedAt ledger).2 =
        ledger.posted transaction := by
  rw [post_apply] at succeeded ⊢
  dsimp only at succeeded ⊢
  rw [succeeded]
  exact ⟨sound.verdict_ok_iff_accepts.mp succeeded, rfl⟩

end Ledger

/-- On the ledger of any run, a posting succeeds exactly if the ledger accepts the
transaction, and then it adds the header and the lines and nothing else. -/
theorem post_succeeds_iff_accepts (guard : OverdraftGuard) (requests : List Request)
    (transaction : Transaction) (options : PostingOptions) (recordedAt : Timestamp) :
    let ledger := reached guard requests
    let outcome := (operations guard).post transaction options recordedAt ledger
    (outcome.1 = .ok () ↔ ledger.Accepts guard transaction options) ∧
      (outcome.1 = .ok () →
        outcome.2 = { ledger with
          headers := ledger.headers ++ [⟨transaction.id, transaction.timestamp⟩]
          lines := ledger.lines ++ transaction.lines.map fun line => ⟨transaction.id, line⟩ }) := by
  intro ledger outcome
  have sound : ledger.Sound := (built_reached guard requests).sound
  have applied : outcome = _ := ledger.post_apply guard transaction options recordedAt
  rw [applied]
  refine ⟨sound.verdict_ok_iff_accepts, fun passed => ?_⟩
  dsimp only at passed ⊢
  rw [passed]
  rfl

end DepositLedger.Memory
