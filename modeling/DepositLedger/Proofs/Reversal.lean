import DepositLedger.Proofs.Acceptance
import DepositLedger.Proofs.Journal

/-! Reversals. The transaction that undoes another one takes ACH lines back, and makes lines
of any other purpose once more, as only ACH purposes have an opposite. Like every posting
that is no initial deposit it has to add up to zero, so it cancels a transaction that adds
up to zero itself, and no other. -/

namespace DepositLedger

open Memory

/-- The purposes that a reversal exchanges for one another. -/
def Purpose.isAch : Purpose → Bool
  | achCredit | achDebit => true
  | _ => false

/-- The line that a reversal has in place of a line. -/
def TransactionLine.opposite (line : TransactionLine) : TransactionLine :=
  { line with purpose := line.purpose.opposite }

theorem TransactionLine.signed_opposite (line : TransactionLine) :
    line.opposite.signed = if line.purpose.isAch then -line.signed else line.signed := by
  rcases line with ⟨⟨purpose, amount⟩, accountId⟩
  cases purpose <;> simp [opposite, Purpose.opposite, Purpose.isAch, Movement.signed]

private theorem TransactionLine.signed_pos_of_not_isAch {line : TransactionLine}
    (sound : line.Sound) (other : line.purpose.isAch = false) : 0 < line.signed := by
  have noDebit : line.purpose ≠ .achDebit := by
    intro debit
    rw [debit] at other
    cases other
  rw [Movement.signed_of_ne_achDebit noDebit]
  exact sound.positive

/-- A line and its opposite leave nothing of an ACH line, and another line twice. -/
theorem exactTotal_map_opposite (lines : List TransactionLine) :
    exactTotal ((lines.map TransactionLine.opposite).map (·.toMovement)) +
        exactTotal (lines.map (·.toMovement)) =
      2 * exactTotal ((lines.filter (!·.purpose.isAch)).map (·.toMovement)) := by
  induction lines with
  | nil => rfl
  | cons line rest induction =>
      simp only [List.map_cons, exactTotal_cons, TransactionLine.signed_opposite,
        List.filter_cons]
      cases line.purpose.isAch with
      | true =>
          simp only [Bool.not_true, Bool.false_eq_true, if_false, if_true]
          omega
      | false =>
          simp only [Bool.not_false, Bool.false_eq_true, if_false, if_true, List.map_cons,
            exactTotal_cons]
          omega

private theorem exactTotal_nonneg {lines : List TransactionLine}
    (positive : ∀ line ∈ lines, 0 < line.signed) :
    0 ≤ exactTotal (lines.map (·.toMovement)) := by
  induction lines with
  | nil => exact Int.le_refl 0
  | cons line rest induction =>
      rcases List.forall_mem_cons.mp positive with ⟨linePositive, restPositive⟩
      have restNonneg := induction restPositive
      rw [List.map_cons, exactTotal_cons]
      omega

/-- Lines that all add to their accounts add up to nothing only if there are none. -/
private theorem exactTotal_eq_zero_iff {lines : List TransactionLine}
    (positive : ∀ line ∈ lines, 0 < line.signed) :
    exactTotal (lines.map (·.toMovement)) = 0 ↔ lines = [] := by
  cases lines with
  | nil => exact ⟨fun _ => rfl, fun _ => rfl⟩
  | cons line rest =>
      rcases List.forall_mem_cons.mp positive with ⟨linePositive, restPositive⟩
      have restNonneg := exactTotal_nonneg restPositive
      rw [List.map_cons, exactTotal_cons]
      constructor
      · intro zero
        omega
      · intro empty
        cases empty

/-- Sound lines of purposes other than ACH add up to nothing only if there are none. -/
theorem exactTotal_others_eq_zero_iff {lines : List TransactionLine}
    (sound : ∀ line ∈ lines, line.Sound) :
    exactTotal ((lines.filter (!·.purpose.isAch)).map (·.toMovement)) = 0 ↔
      ∀ line ∈ lines, line.purpose.isAch = true := by
  have positive : ∀ line ∈ lines.filter (!·.purpose.isAch), 0 < line.signed := by
    intro line member
    rcases List.mem_filter.mp member with ⟨lineMember, other⟩
    exact TransactionLine.signed_pos_of_not_isAch (sound line lineMember) (by simpa using other)
  rw [exactTotal_eq_zero_iff positive, List.filter_eq_nil_iff]
  simp

namespace Transaction

/-- What a transaction adds to the exact balance of an account. -/
def effectOn (transaction : Transaction) (accountId : AccountId) : Int :=
  exactTotal ((transaction.lines.filter (·.accountId == accountId)).map (·.toMovement))

variable {transaction : Transaction}

theorem effectOn_eq_exactTotal_movementsOf (transaction : Transaction) (accountId : AccountId) :
    transaction.effectOn accountId = exactTotal (movementsOf transaction.kept accountId) := by
  simp [effectOn, movementsOf, kept, keepLines, List.filter_map, Function.comp_def]

private theorem effectOn_of_mem {line : TransactionLine}
    (distinct : (transaction.lines.map (·.accountId)).Nodup) (member : line ∈ transaction.lines) :
    transaction.effectOn line.accountId = line.signed := by
  rw [effectOn_eq_exactTotal_movementsOf, kept, movementsOf_keepLines_of_mem distinct member]
  exact Int.add_zero _

private theorem effectOn_of_absent {accountId : AccountId}
    (absent : ∀ line ∈ transaction.lines, line.accountId ≠ accountId) :
    transaction.effectOn accountId = 0 := by
  rw [effectOn_eq_exactTotal_movementsOf, kept, movementsOf_keepLines_eq_nil absent,
    exactTotal_nil]

theorem effectOn_of_not_touches {accountId : AccountId}
    (untouched : transaction.touches accountId = false) : transaction.effectOn accountId = 0 := by
  apply effectOn_of_absent
  simpa [touches] using untouched

variable {id : TransactionId} {timestamp : Timestamp}

theorem reversal_lines (transaction : Transaction) (id : TransactionId) (timestamp : Timestamp) :
    (transaction.reversal id timestamp).lines = transaction.lines.map .opposite := rfl

private theorem accountIds_reversal (transaction : Transaction) (id : TransactionId)
    (timestamp : Timestamp) :
    (transaction.reversal id timestamp).lines.map (·.accountId) =
      transaction.lines.map (·.accountId) := by
  rw [reversal_lines, List.map_map]
  rfl

theorem touchedAccounts_reversal (transaction : Transaction) (id : TransactionId)
    (timestamp : Timestamp) :
    (transaction.reversal id timestamp).touchedAccounts = transaction.touchedAccounts := by
  rw [touchedAccounts, accountIds_reversal, touchedAccounts]

private theorem Shaped.of_reversal (shaped : (transaction.reversal id timestamp).Shaped) :
    ∀ line ∈ transaction.lines, line.Sound := by
  intro line member
  have opposite := shaped.lines line.opposite (List.mem_map_of_mem member)
  exact ⟨opposite.named, opposite.positive⟩

/-- A transaction has ACH lines only, exactly if it and its reversal both add up to zero. -/
private theorem exactSum_eq_zero_iff_of_reversal
    (balanced : (transaction.reversal id timestamp).exactSum = 0)
    (sound : ∀ line ∈ transaction.lines, line.Sound) :
    transaction.exactSum = 0 ↔ ∀ line ∈ transaction.lines, line.purpose.isAch = true := by
  have twice := exactTotal_map_opposite transaction.lines
  rw [exactSum, reversal_lines] at balanced
  rw [balanced] at twice
  rw [← exactTotal_others_eq_zero_iff sound, exactSum]
  constructor
  · intro zero
    omega
  · intro zero
    omega

end Transaction

namespace Memory

namespace Ledger

variable {ledger : Ledger} {guard : OverdraftGuard} {transaction : Transaction}
  {id : TransactionId} {timestamp : Timestamp}

private theorem exactBalance_posted_reversal_of_mem {line : TransactionLine}
    (accepted : ledger.Accepts guard (transaction.reversal id timestamp) {})
    (member : line ∈ transaction.lines) :
    (ledger.posted (transaction.reversal id timestamp)).exactBalance line.accountId =
      ledger.exactBalance line.accountId +
        if line.purpose.isAch then -line.signed else line.signed := by
  have opposite : line.opposite ∈ (transaction.reversal id timestamp).lines :=
    List.mem_map_of_mem member
  rw [← line.signed_opposite]
  exact exactBalance_posted_of_mem accepted.distinct opposite

private theorem exactBalance_posted_reversal_of_absent {accountId : AccountId}
    (absent : ∀ line ∈ transaction.lines, line.accountId ≠ accountId) :
    (ledger.posted (transaction.reversal id timestamp)).exactBalance accountId =
      ledger.exactBalance accountId := by
  apply exactBalance_posted_of_absent
  intro opposite member
  rcases List.mem_map.mp member with ⟨line, lineMember, rfl⟩
  exact absent line lineMember

/-- An accepted reversal cancels a transaction on all accounts, exactly if the transaction
adds up to zero. -/
theorem cancels_iff_exactSum_eq_zero
    (accepted : ledger.Accepts guard (transaction.reversal id timestamp) {}) :
    (∀ account ∈ ledger.accounts,
      (ledger.posted (transaction.reversal id timestamp)).exactBalance account.id =
        ledger.exactBalance account.id - transaction.effectOn account.id) ↔
      transaction.exactSum = 0 := by
  have shaped := Transaction.shaped_of_checkFor accepted.checked
  have sound := shaped.of_reversal
  have balanced := Transaction.exactSum_eq_zero_of_checkFor accepted.checked rfl
  have distinct := accepted.distinct
  rw [Transaction.accountIds_reversal] at distinct
  rw [Transaction.exactSum_eq_zero_iff_of_reversal balanced sound]
  constructor
  · intro cancels line member
    rcases accepted.stored line.opposite (List.mem_map_of_mem member) with ⟨account, stored, same⟩
    have own : account.id = line.accountId := same
    have effect := cancels account stored
    rw [own, exactBalance_posted_reversal_of_mem accepted member,
      Transaction.effectOn_of_mem distinct member] at effect
    -- A line that is made once more would have to be of no amount.
    cases ach : line.purpose.isAch with
    | true => rfl
    | false =>
        have positive := TransactionLine.signed_pos_of_not_isAch (sound line member) ach
        rw [ach, if_neg Bool.false_ne_true] at effect
        omega
  · intro allAch account _
    by_cases touched : ∃ line ∈ transaction.lines, line.accountId = account.id
    · rcases touched with ⟨line, member, same⟩
      rw [← same, exactBalance_posted_reversal_of_mem accepted member,
        Transaction.effectOn_of_mem distinct member, allAch line member, if_pos rfl]
      exact Int.sub_eq_add_neg.symm
    · have absent : ∀ line ∈ transaction.lines, line.accountId ≠ account.id :=
        fun line member same => touched ⟨line, member, same⟩
      rw [exactBalance_posted_reversal_of_absent absent, Transaction.effectOn_of_absent absent,
        Int.sub_zero]

/-- A reversal that succeeds has been accepted and posted. -/
private theorem Sound.reverse_ok (sound : ledger.Sound) {stamp : Stamp}
    {posted reversal : Transaction} (found : ledger.transaction? id = some posted)
    (succeeded : ((operations guard).reverse id stamp ledger).1 = .ok reversal) :
    ledger.Accepts guard (posted.reversal stamp.id stamp.timestamp) {} ∧
      ((operations guard).reverse id stamp ledger).2 =
        ledger.posted (posted.reversal stamp.id stamp.timestamp) := by
  rw [reverse_apply, found] at succeeded ⊢
  rcases passed : ledger.verdict guard (posted.reversal stamp.id stamp.timestamp) {} with
    fault | ⟨⟨⟩⟩
  · simp only [passed] at succeeded
    cases succeeded
  · exact ⟨sound.verdict_ok_iff_accepts.mp passed, by simp only [passed]⟩

end Ledger

/-- On the ledger of any run, a reversal that succeeds takes back the ACH lines of the
transaction and makes its other lines once more. So it cancels the transaction exactly if
that adds up to zero, as all do that were not posted as initial deposits. -/
theorem reversal_cancels_iff (guard : OverdraftGuard) (requests : List Request)
    (id : TransactionId) (stamp : Stamp) (posted reversal : Transaction)
    (found : (reached guard requests).transaction? id = some posted)
    (succeeded : ((operations guard).reverse id stamp (reached guard requests)).1 =
      .ok reversal) :
    let ledger := reached guard requests
    let left := ((operations guard).reverse id stamp ledger).2
    ((∀ account ∈ ledger.accounts, left.exactBalance account.id =
      ledger.exactBalance account.id - posted.effectOn account.id) ↔ posted.exactSum = 0) ∧
    (∀ line ∈ posted.lines, left.exactBalance line.accountId =
      ledger.exactBalance line.accountId +
        if line.purpose.isAch then -line.signed else line.signed) ∧
    (∀ accountId, (∀ line ∈ posted.lines, line.accountId ≠ accountId) →
      left.exactBalance accountId = ledger.exactBalance accountId) ∧
    ∀ posting ∈ postings guard requests, posting.transaction = posted →
      posting.options.initialDeposit = false → posted.exactSum = 0 := by
  intro ledger left
  have built : ledger.Built guard (postings guard requests) := built_reached guard requests
  rcases built.sound.reverse_ok found succeeded with ⟨accepted, leftEq⟩
  have leftIs : left = ledger.posted (posted.reversal stamp.id stamp.timestamp) := leftEq
  rw [leftIs]
  refine ⟨Ledger.cancels_iff_exactSum_eq_zero accepted,
    fun line member => Ledger.exactBalance_posted_reversal_of_mem accepted member,
    fun accountId absent => Ledger.exactBalance_posted_reversal_of_absent absent, ?_⟩
  intro posting member same plain
  rw [← same]
  exact Transaction.exactSum_eq_zero_of_checkFor (built.accepts posting member).checked plain

def sampleStamp : Stamp :=
  ⟨⟨.ofNat 22⟩, .microsecondsInto2050 3, .microsecondsInto2050 4⟩

/-- A transfer between accounts of another bank. -/
def sampleTransfer : Transaction where
  id := ⟨.ofNat 21⟩
  timestamp := .microsecondsInto2050 1
  lines := [sampleLine .achDebit ⟨500, by decide, by decide⟩ 11,
    sampleLine .achCredit ⟨500, by decide, by decide⟩ 12]

def transferRun : List Request :=
  [addSample 11 "121042882", addSample 12 "121042882",
    .post sampleTransfer {} (.microsecondsInto2050 2)]

theorem reversal_cancels_transferRun :
    let ledger := reached sampleGuard transferRun
    let reversal := sampleTransfer.reversal sampleStamp.id sampleStamp.timestamp
    let outcome := (operations sampleGuard).reverse sampleTransfer.id sampleStamp ledger
    ledger.transaction? sampleTransfer.id = some sampleTransfer ∧ outcome.1 = .ok reversal ∧
      ∀ account ∈ ledger.accounts, outcome.2.exactBalance account.id =
        ledger.exactBalance account.id - sampleTransfer.effectOn account.id := by
  intro ledger reversal outcome
  have found : ledger.transaction? sampleTransfer.id = some sampleTransfer := by decide
  have succeeded : outcome.1 = .ok reversal := by decide
  refine ⟨found, succeeded, ?_⟩
  exact (reversal_cancels_iff sampleGuard transferRun sampleTransfer.id sampleStamp sampleTransfer
    reversal found succeeded).1.mpr (by decide)

/-- An initial deposit with a fee, which is credited again when the deposit is reversed. -/
def feeDeposit : Transaction where
  id := ⟨.ofNat 21⟩
  timestamp := .microsecondsInto2050 1
  lines := [sampleLine .achCredit ⟨50, by decide, by decide⟩ 11,
    sampleLine .fee ⟨50, by decide, by decide⟩ 12]

def feeDepositRun : List Request :=
  [addSample 11 "121042882", addSample 12 "219871289",
    .post feeDeposit { initialDeposit := true } (.microsecondsInto2050 2)]

theorem not_cancels_feeDepositRun :
    ¬ ∀ (guard : OverdraftGuard) (requests : List Request) (id : TransactionId) (stamp : Stamp)
      (posted reversal : Transaction),
      (reached guard requests).transaction? id = some posted →
      ((operations guard).reverse id stamp (reached guard requests)).1 = .ok reversal →
      ∀ account ∈ (reached guard requests).accounts,
        ((operations guard).reverse id stamp (reached guard requests)).2.exactBalance account.id =
          (reached guard requests).exactBalance account.id - posted.effectOn account.id := by
  intro cancels
  have all := cancels sampleGuard feeDepositRun feeDeposit.id sampleStamp feeDeposit
    (feeDeposit.reversal sampleStamp.id sampleStamp.timestamp) (by decide) (by decide)
  exact absurd all (by decide)

end Memory

end DepositLedger
