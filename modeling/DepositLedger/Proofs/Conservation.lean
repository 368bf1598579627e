import DepositLedger.Proofs.Journal
import DepositLedger.Proofs.Opening
import Mathlib.Algebra.BigOperators.Group.List.Basic
import Mathlib.Algebra.Ring.Int.Defs

/-! Money. What all accounts of a ledger hold together is what its lines add up to, as each
line is on one stored account. So it is moved by initial deposits alone: all else that is
posted adds up to zero, and what fails moves nothing. -/

namespace DepositLedger

theorem exactTotal_flatMap {α : Type} (movements : α → List Movement) (rows : List α) :
    exactTotal (rows.flatMap movements) = (rows.map fun row => exactTotal (movements row)).sum := by
  induction rows with
  | nil => rfl
  | cons row rest induction =>
      rw [List.flatMap_cons, exactTotal_append, induction, List.map_cons, List.sum_cons]

/-- Rows of no value may be left out of a sum. -/
theorem sum_eq_sum_filter {α : Type} {rows : List α} {counts : α → Bool} {value : α → Int}
    (zero : ∀ row ∈ rows, counts row = false → value row = 0) :
    (rows.map value).sum = ((rows.filter counts).map value).sum := by
  induction rows with
  | nil => rfl
  | cons row rest induction =>
      rcases List.forall_mem_cons.mp zero with ⟨rowZero, restZero⟩
      rw [List.map_cons, List.sum_cons, induction restZero, List.filter_cons]
      cases counted : counts row with
      | true => rw [if_pos rfl, List.map_cons, List.sum_cons]
      | false => rw [if_neg Bool.false_ne_true, rowZero counted, Int.zero_add]

namespace Memory

/-- Where every line is on one of the accounts, their movements are all that there are. -/
private theorem sum_exactTotal_movementsOf {ids : List AccountId} (distinct : ids.Nodup)
    {lines : List PostedLine} (known : ∀ posted ∈ lines, posted.line.accountId ∈ ids) :
    (ids.map fun id => exactTotal (movementsOf lines id)).sum =
      exactTotal (lines.map (·.line.toMovement)) := by
  induction lines with
  | nil => simp [movementsOf]
  | cons posted rest induction =>
      rcases List.forall_mem_cons.mp known with ⟨postedKnown, restKnown⟩
      have split : ∀ id, exactTotal (movementsOf (posted :: rest) id) =
          (if id = posted.line.accountId then posted.line.signed else 0) +
            exactTotal (movementsOf rest id) := by
        intro id
        by_cases own : id = posted.line.accountId
        · simp [movementsOf, own]
        · simp [movementsOf, own, Ne.symm own]
      have once : ids.count posted.line.accountId = 1 :=
        List.count_eq_one_of_mem distinct postedKnown
      simp only [split, List.sum_map_add, List.sum_map_ite_eq, once, induction restKnown,
        List.map_cons, exactTotal_cons]
      simp

namespace Ledger

/-- What all stored accounts hold together. -/
def money (ledger : Ledger) : Int :=
  (ledger.accounts.map fun account => ledger.exactBalance account.id).sum

variable {ledger added : Ledger}

/-- Each line counts once, on the account that it is on. -/
theorem Sound.money_eq (sound : ledger.Sound) :
    ledger.money = exactTotal (ledger.lines.map (·.line.toMovement)) := by
  have known : ∀ posted ∈ ledger.lines, posted.line.accountId ∈ ledger.accounts.map (·.id) := by
    intro posted member
    rcases sound.lineAccount posted member with ⟨account, stored, same⟩
    exact List.mem_map.mpr ⟨account, stored, same⟩
  rw [← sum_exactTotal_movementsOf sound.accountIds known, List.map_map]
  rfl

theorem Sound.money_addAccount (sound : ledger.Sound) {customerId : CustomerId}
    {account : Account} (stored : ledger.addAccount customerId account = .ok added) :
    added.money = ledger.money := by
  have same : added.lines = ledger.lines := by
    rcases addAccount_ok_iff.mp stored with ⟨_, _, rfl⟩
    rfl
  rw [(sound.addAccount stored).money_eq, sound.money_eq, same]

private theorem exactTotal_map_kept (transaction : Transaction) :
    exactTotal (transaction.kept.map (·.line.toMovement)) = transaction.exactSum := by
  rw [Transaction.exactSum, ← transaction.map_line_kept, List.map_map]
  rfl

theorem Sound.money_posted (sound : ledger.Sound) {guard : OverdraftGuard}
    {transaction : Transaction} {options : PostingOptions}
    (accepted : ledger.Accepts guard transaction options) :
    (ledger.posted transaction).money = ledger.money + transaction.exactSum := by
  have lines : (ledger.posted transaction).lines = ledger.lines ++ transaction.kept := rfl
  rw [(sound.posted accepted).money_eq, sound.money_eq, lines, List.map_append,
    exactTotal_append, exactTotal_map_kept]

/-- The money on a ledger is what the transactions of its journal add up to. -/
theorem Holds.money_eq {journal : List Transaction} (holds : ledger.Holds journal)
    (sound : ledger.Sound) :
    ledger.money = (journal.map Transaction.exactSum).sum := by
  rw [sound.money_eq, holds.lines, List.map_flatMap, exactTotal_flatMap]
  simp only [exactTotal_map_kept]

variable {guard : OverdraftGuard}

/-- A posting brings in what its lines add up to, and only an initial deposit's add up to
anything but zero. -/
theorem Sound.money_post (sound : ledger.Sound) (transaction : Transaction)
    (options : PostingOptions) (recordedAt : Timestamp) :
    let outcome := (operations guard).post transaction options recordedAt ledger
    (outcome.1 = .ok () → outcome.2.money =
      ledger.money + if options.initialDeposit then transaction.exactSum else 0) ∧
    ∀ fault, outcome.1 = .error fault → outcome.2.money = ledger.money := by
  rw [post_apply]
  rcases passed : ledger.verdict guard transaction options with fault | ⟨⟨⟩⟩
  · exact ⟨(nomatch ·), fun _ _ => rfl⟩
  · have accepted := sound.verdict_ok_iff_accepts.mp passed
    refine ⟨fun _ => ?_, fun _ => (nomatch ·)⟩
    dsimp only
    rw [sound.money_posted accepted]
    cases deposit : options.initialDeposit with
    | true => rfl
    | false =>
        rw [Transaction.exactSum_eq_zero_of_checkFor accepted.checked deposit]
        rfl

theorem Sound.money_reverse (sound : ledger.Sound) (id : TransactionId) (stamp : Stamp) :
    ((operations guard).reverse id stamp ledger).2.money = ledger.money := by
  rw [reverse_apply]
  cases ledger.transaction? id with
  | none => rfl
  | some posted =>
      rcases passed : ledger.verdict guard (posted.reversal stamp.id stamp.timestamp) {} with
        fault | ⟨⟨⟩⟩
      · simp only [passed]
      · have accepted := sound.verdict_ok_iff_accepts.mp passed
        simp only [passed]
        rw [sound.money_posted accepted,
          Transaction.exactSum_eq_zero_of_checkFor accepted.checked rfl, Int.add_zero]

theorem Sound.money_openWithDeposit (sound : ledger.Sound) (customerId : CustomerId)
    (account : Account) (amount : Cents) (stamp : Stamp) :
    let outcome := (operations guard).openWithDeposit customerId account amount stamp ledger
    (∀ shown, outcome.1 = .ok shown → outcome.2.money = ledger.money + amount.value) ∧
    ∀ fault, outcome.1 = .error fault → outcome.2.money = ledger.money := by
  rw [sound.openWithDeposit_apply]
  cases stored : ledger.addAccount customerId account with
  | error fault => exact ⟨fun _ => (nomatch ·), fun _ _ => rfl⟩
  | ok added =>
      have addedSound := sound.addAccount stored
      have kept := sound.money_addAccount stored
      rcases passed : added.verdict guard (Operations.openingDeposit account amount stamp)
        { initialDeposit := true } with fault | ⟨⟨⟩⟩
      · simp only [passed]
        exact ⟨fun _ => (nomatch ·), fun _ _ => kept⟩
      · have accepted := addedSound.verdict_ok_iff_accepts.mp passed
        have sum : (Operations.openingDeposit account amount stamp).exactSum = amount.value :=
          Int.add_zero _
        simp only [passed]
        refine ⟨fun _ _ => ?_, fun _ => (nomatch ·)⟩
        rw [addedSound.money_posted accepted, kept, sum]

end Ledger

/-- Of the exact sums of some postings only those of initial deposits count. -/
private theorem sum_exactSum_eq_sum_deposits {accepted : List AcceptedPosting}
    (balanced : ∀ posting ∈ accepted, posting.options.initialDeposit = false →
      posting.transaction.exactSum = 0) :
    (accepted.map (·.transaction.exactSum)).sum =
      ((accepted.filter (·.options.initialDeposit)).map (·.transaction.exactSum)).sum :=
  sum_eq_sum_filter balanced

/-- On the ledger of any run, an initial deposit brings in what its lines add up to and
nothing else moves money, so all money is that of the initial deposits. -/
theorem money_conserved (guard : OverdraftGuard) (requests : List Request) :
    let ledger := reached guard requests
    let accepted := postings guard requests
    (∀ customerId account,
      ((operations guard).addAccount customerId account ledger).2.money = ledger.money) ∧
    (∀ transaction options recordedAt,
      let outcome := (operations guard).post transaction options recordedAt ledger
      (outcome.1 = .ok () → outcome.2.money =
        ledger.money + if options.initialDeposit then transaction.exactSum else 0) ∧
      ∀ fault, outcome.1 = .error fault → outcome.2.money = ledger.money) ∧
    (∀ id stamp, ((operations guard).reverse id stamp ledger).2.money = ledger.money) ∧
    (∀ customerId account amount stamp,
      let outcome := (operations guard).openWithDeposit customerId account amount stamp ledger
      (∀ shown, outcome.1 = .ok shown → outcome.2.money = ledger.money + amount.value) ∧
      ∀ fault, outcome.1 = .error fault → outcome.2.money = ledger.money) ∧
    ledger.Holds (accepted.map (·.transaction)) ∧
    ledger.money =
      ((accepted.filter (·.options.initialDeposit)).map (·.transaction.exactSum)).sum ∧
    ∀ posting ∈ accepted, posting.options.initialDeposit = false →
      posting.transaction.exactSum = 0 := by
  intro ledger accepted
  have built : ledger.Built guard accepted := built_reached guard requests
  have sound := built.sound
  have balanced : ∀ posting ∈ accepted, posting.options.initialDeposit = false →
      posting.transaction.exactSum = 0 := fun posting member plain =>
    Transaction.exactSum_eq_zero_of_checkFor (built.accepts posting member).checked plain
  refine ⟨fun customerId account => ?_, sound.money_post, sound.money_reverse,
    sound.money_openWithDeposit, built.holds, ?_, balanced⟩
  · rw [addAccount_apply]
    cases stored : ledger.addAccount customerId account with
    | error fault => rfl
    | ok added => exact sound.money_addAccount stored
  · rw [built.holds.money_eq sound, List.map_map, ← sum_exactSum_eq_sum_deposits balanced]
    rfl

end Memory

end DepositLedger
