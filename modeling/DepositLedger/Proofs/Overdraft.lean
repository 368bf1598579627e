import DepositLedger.Proofs.Refusals

/-! Leave to overdraw. It lifts the check of funds and no other: what is posted without it is
posted with it, and what is refused without it is refused with it, unless it was for want of funds.
A refusal for want of funds may stand before a fault of a later line, and then that is found. -/

namespace DepositLedger

open Memory

namespace PostingRules

/-- The rules differ at most in that the second ones do not check funds. -/
structure LiftsFunds (guarded free : PostingRules) : Prop where
  transactionId : guarded.transactionId = free.transactionId
  wrongDeposit : guarded.wrongDeposit = free.wrongDeposit
  skipsBalance : guarded.skipsBalance = free.skipsBalance
  unchecked : free.checksFunds = false

private theorem liftsFunds_of (guard : OverdraftGuard) (transaction : Transaction) (deposit : Bool)
    (accounts : List Account) (first : TransactionLine) :
    LiftsFunds
      (.of guard transaction { allowOverdraft := false, initialDeposit := deposit } accounts first)
      (.of guard transaction { allowOverdraft := true, initialDeposit := deposit } accounts first)
    where
  transactionId := rfl
  wrongDeposit := rfl
  skipsBalance := rfl
  unchecked := rfl

variable {guarded free : PostingRules}

private theorem LiftsFunds.checkVerdict_cases (lifts : guarded.LiftsFunds free) (ledger : Ledger)
    (line : TransactionLine) :
    guarded.checkVerdict ledger line = free.checkVerdict ledger line ∨
      free.wrongDeposit = false ∧ free.checkVerdict ledger line = .ok () ∧
        ∃ balance, guarded.checkVerdict ledger line =
          .error (.insufficientFunds line.accountId balance line.amount) := by
  rw [checkVerdict, checkVerdict, lifts.transactionId, lifts.wrongDeposit, lifts.skipsBalance,
    lifts.unchecked]
  cases free.wrongDeposit with
  | true => exact Or.inl rfl
  | false =>
      cases free.skipsBalance with
      | true => exact Or.inl rfl
      | false =>
          cases balance? (movementsOf ledger.lines line.accountId ++ [line.toMovement]) with
          | none => exact Or.inl rfl
          | some balance =>
              by_cases short : (guarded.checksFunds && !isCovered balance line) = true
              · exact Or.inr ⟨rfl, rfl, balance, if_pos short⟩
              · exact Or.inl (if_neg short)

private theorem LiftsFunds.lineVerdict_cases (lifts : guarded.LiftsFunds free) (ledger : Ledger)
    (earlier : List TransactionLine) (line : TransactionLine) :
    guarded.lineVerdict ledger earlier line = free.lineVerdict ledger earlier line ∨
      free.wrongDeposit = false ∧ free.lineVerdict ledger earlier line = .ok () ∧
        ∃ balance, guarded.lineVerdict ledger earlier line =
          .error (.insufficientFunds line.accountId balance line.amount) := by
  rw [lineVerdict, lineVerdict, lifts.transactionId]
  by_cases taken : (hasLine (keepLines free.transactionId earlier) free.transactionId
      line.accountId || hasLine ledger.lines free.transactionId line.accountId) = true
  · rw [if_pos taken, if_pos taken]
    exact Or.inl rfl
  · rw [if_neg taken, if_neg taken]
    exact lifts.checkVerdict_cases ledger line

/-- What can be wrong with a line where neither the deposit nor funds are checked. -/
private theorem lineVerdict_eq_error {ledger : Ledger} {earlier : List TransactionLine}
    {line : TransactionLine} {fault : LedgerFault} (right : free.wrongDeposit = false)
    (unchecked : free.checksFunds = false)
    (refused : free.lineVerdict ledger earlier line = .error fault) :
    fault = .duplicateLine free.transactionId line.accountId ∨
      fault = .balanceOverflow line.accountId := by
  rw [lineVerdict] at refused
  split at refused
  · cases refused
    exact Or.inl rfl
  · rw [checkVerdict, right, unchecked, if_neg Bool.false_ne_true] at refused
    split at refused
    · cases refused
    · split at refused
      · cases refused
        exact Or.inr rfl
      · cases refused

end PostingRules

/-- What is said where funds are checked, and what is said where they are not: the same, or a
refusal for want of funds against what the other checks say of the lines from there on. -/
inductive FundsLifted (transactionId : TransactionId) :
    (guarded free : Except LedgerFault Unit) → Prop
  | same (outcome : Except LedgerFault Unit) : FundsLifted transactionId outcome outcome
  | short (accountId : AccountId) (balance amount : Cents) {free : Except LedgerFault Unit}
      (later : ∀ fault, free = .error fault → ∃ laterId,
        fault = .duplicateLine transactionId laterId ∨ fault = .balanceOverflow laterId) :
      FundsLifted transactionId (.error (.insufficientFunds accountId balance amount)) free

private theorem PostingRules.LiftsFunds.linesVerdict {guarded free : PostingRules} {ledger : Ledger}
    (lifts : guarded.LiftsFunds free) (earlier lines : List TransactionLine) :
    FundsLifted free.transactionId (guarded.linesVerdict ledger earlier lines)
      (free.linesVerdict ledger earlier lines) := by
  induction lines generalizing earlier with
  | nil => exact .same _
  | cons line rest induction =>
      rw [PostingRules.linesVerdict, PostingRules.linesVerdict]
      rcases lifts.lineVerdict_cases ledger earlier line with
        same | ⟨right, passed, balance, short⟩
      · rw [same]
        rcases free.lineVerdict ledger earlier line with fault | ⟨⟨⟩⟩
        · exact .same _
        · exact induction _
      · rw [short, passed]
        -- One run ends at this line. The other goes on, and later lines may still be refused.
        refine .short _ _ _ fun fault refused => ?_
        rcases exists_lineVerdict_eq_error refused with ⟨later, _, before, laterRefused⟩
        exact ⟨later.accountId, lineVerdict_eq_error right lifts.unchecked laterRefused⟩

namespace Memory

namespace Ledger

variable {ledger : Ledger} {guard : OverdraftGuard} {transaction : Transaction}

private theorem writtenVerdict_fundsLifted (ledger : Ledger) (guard : OverdraftGuard)
    (transaction : Transaction) (deposit : Bool) (accounts : List Account) :
    FundsLifted transaction.id
      (ledger.writtenVerdict guard transaction
        { allowOverdraft := false, initialDeposit := deposit } accounts)
      (ledger.writtenVerdict guard transaction
        { allowOverdraft := true, initialDeposit := deposit } accounts) := by
  cases taken : hasHeader ledger.headers transaction.id with
  | true =>
      rw [writtenVerdict, writtenVerdict, taken]
      exact .same _
  | false =>
      cases linesOf : transaction.lines with
      | nil =>
          rw [writtenVerdict, writtenVerdict, linesOf]
          exact .same _
      | cons first rest =>
          rw [writtenVerdict_of_cons taken linesOf, writtenVerdict_of_cons taken linesOf]
          exact (PostingRules.liftsFunds_of guard transaction deposit accounts first).linesVerdict
            [] transaction.lines

private theorem verdict_fundsLifted (ledger : Ledger) (guard : OverdraftGuard)
    (transaction : Transaction) (deposit : Bool) :
    FundsLifted transaction.id
      (ledger.verdict guard transaction { allowOverdraft := false, initialDeposit := deposit })
      (ledger.verdict guard transaction { allowOverdraft := true, initialDeposit := deposit }) := by
  have checks : transaction.checkFor { allowOverdraft := true, initialDeposit := deposit } =
      transaction.checkFor { allowOverdraft := false, initialDeposit := deposit } := rfl
  rw [verdict, verdict, checks]
  rcases transaction.checkFor { allowOverdraft := false, initialDeposit := deposit } with
    fault | ⟨⟨⟩⟩
  · exact .same _
  · dsimp only
    cases ledger.accountsById transaction.touchedAccounts with
    | error fault => exact .same _
    | ok accounts =>
        dsimp only
        cases firstMissing? transaction.touchedAccounts accounts with
        | some missing => exact .same _
        | none => exact ledger.writtenVerdict_fundsLifted guard transaction deposit accounts

/-- A line leaves more than zero on its account and, as an ACH debit, more than it takes. -/
def Funded (ledger : Ledger) (line : TransactionLine) : Prop :=
  0 < ledger.exactBalance line.accountId + line.signed ∧
    (line.purpose = .achDebit →
      line.amount.value < ledger.exactBalance line.accountId + line.signed)

private theorem affords_iff {checksFunds lifted : Prop} (unchecked : ¬ lifted)
    {line : TransactionLine} :
    ledger.Affords checksFunds line ↔
      ledger.Affords lifted line ∧ (checksFunds → ledger.Funded line) := by
  constructor
  · rintro ⟨old, computed, above, below, funded⟩
    rw [Funded, ← balanceOf?_value computed]
    exact ⟨⟨old, computed, above, below, fun checked => (unchecked checked).elim⟩, funded⟩
  · rintro ⟨⟨old, computed, above, below, _⟩, funded⟩
    rw [Funded, ← balanceOf?_value computed] at funded
    exact ⟨old, computed, above, below, funded⟩

/-- Without leave to overdraw all lines have to be funded too, where funds are checked. -/
theorem accepts_iff_funded {deposit : Bool} :
    ledger.Accepts guard transaction { allowOverdraft := false, initialDeposit := deposit } ↔
      ledger.Accepts guard transaction { allowOverdraft := true, initialDeposit := deposit } ∧
        (¬ transaction.IsLargeDeposit { initialDeposit := deposit } →
          ledger.GuardsFunds guard transaction →
            ∀ line ∈ transaction.lines, ledger.Funded line) := by
  have affords (line : TransactionLine) : ledger.Affords (false = false ∧
      ledger.GuardsFunds guard transaction) line ↔ ledger.Affords (true = false ∧
        ledger.GuardsFunds guard transaction) line ∧
          (false = false ∧ ledger.GuardsFunds guard transaction → ledger.Funded line) :=
    affords_iff fun lifted => Bool.noConfusion lifted.1
  constructor
  · intro accepted
    refine ⟨{ accepted with affordable := fun small line member => ?_ }, ?_⟩
    · exact ((affords line).mp (accepted.affordable small line member)).1
    · intro small guards line member
      exact ((affords line).mp (accepted.affordable small line member)).2 ⟨rfl, guards⟩
  · rintro ⟨accepted, funded⟩
    refine { accepted with affordable := fun small line member => ?_ }
    exact (affords line).mpr ⟨accepted.affordable small line member, fun checked =>
      funded small checked.2 line member⟩

private theorem verdict_ok_iff_funded (ledger : Ledger) (guard : OverdraftGuard)
    (transaction : Transaction) (deposit : Bool) :
    ledger.verdict guard transaction { allowOverdraft := false, initialDeposit := deposit } =
        .ok () ↔
      ledger.verdict guard transaction { allowOverdraft := true, initialDeposit := deposit } =
          .ok () ∧
        (¬ transaction.IsLargeDeposit { initialDeposit := deposit } →
          ledger.GuardsFunds guard transaction →
            ∀ line ∈ transaction.lines, ledger.Funded line) := by
  rw [verdict_ok_iff, verdict_ok_iff, accepts_iff_funded]
  exact and_right_comm

private theorem verdict_ne_insufficientFunds (ledger : Ledger) (guard : OverdraftGuard)
    (transaction : Transaction) {options : PostingOptions}
    (leave : options.allowOverdraft = true) (accountId : AccountId) (balance amount : Cents) :
    ledger.verdict guard transaction options ≠
      .error (.insufficientFunds accountId balance amount) := by
  intro refused
  rcases exists_shortOn refused with ⟨_, _, _, _, short⟩
  rw [short.forbidden] at leave
  cases leave

end Ledger

/-- On any ledger, leave to overdraw makes a difference only to what would be refused for want of
funds. That is posted with it, if all else is in order; what may not be is a later line that is
on the account of an earlier one or takes its account out of range. -/
theorem leave_lifts_funds_only (guard : OverdraftGuard) (ledger : Ledger)
    (transaction : Transaction) (initialDeposit : Bool) (recordedAt : Timestamp) :
    let post (allowOverdraft : Bool) :=
      (operations guard).post transaction { allowOverdraft, initialDeposit } recordedAt ledger
    ((post false).1 = .ok () → post true = post false) ∧
    ((post true).1 = .ok () → (post false).1 ≠ .ok () →
      ∃ accountId balance amount,
        (post false).1 = .error (.insufficientFunds accountId balance amount)) ∧
    (post true = post false ∨
      (∃ accountId balance amount,
        post false = (.error (.insufficientFunds accountId balance amount), ledger)) ∧
      ∀ fault, (post true).1 = .error fault → ∃ accountId,
        fault = .duplicateLine transaction.id accountId ∨ fault = .balanceOverflow accountId) ∧
    (∀ accountId balance amount,
      (post true).1 ≠ .error (.insufficientFunds accountId balance amount)) ∧
    ((post false).1 = .ok () ↔ (post true).1 = .ok () ∧
      (¬ transaction.IsLargeDeposit { initialDeposit } →
        ledger.GuardsFunds guard transaction →
          ∀ line ∈ transaction.lines, ledger.Funded line)) := by
  intro post
  have applied (allowOverdraft : Bool) : post allowOverdraft = _ :=
    ledger.post_apply guard transaction { allowOverdraft, initialDeposit } recordedAt
  have lifted := ledger.verdict_fundsLifted guard transaction initialDeposit
  have passes := ledger.verdict_ok_iff_funded guard transaction initialDeposit
  have leave : PostingOptions.allowOverdraft { allowOverdraft := true, initialDeposit } = true :=
    rfl
  have unrefused := ledger.verdict_ne_insufficientFunds guard transaction leave
  rw [applied, applied]
  generalize ledger.verdict guard transaction { allowOverdraft := false, initialDeposit } =
    guarded at lifted passes ⊢
  generalize ledger.verdict guard transaction { allowOverdraft := true, initialDeposit } =
    free at lifted unrefused passes ⊢
  cases lifted with
  | same =>
      exact ⟨fun _ => rfl, fun passed refused => (refused passed).elim, Or.inl rfl, unrefused,
        passes⟩
  | short accountId balance amount later =>
      exact ⟨(nomatch ·), fun _ _ => ⟨accountId, balance, amount, rfl⟩,
        Or.inr ⟨⟨accountId, balance, amount, rfl⟩, later⟩, unrefused, passes⟩

/-- A debit of an empty account is posted with leave to overdraw. -/
example :
    let debit : Transaction := ⟨⟨.ofNat 21⟩, .microsecondsInto2050 1,
      [sampleLine .achDebit (sampleCents 500) 11, sampleLine .achCredit (sampleCents 500) 12]⟩
    let post (allowOverdraft : Bool) := (operations sampleGuard).post debit { allowOverdraft }
      (.microsecondsInto2050 2) (reached sampleGuard [addSample 11 "219871289",
        addSample 12 "121042882"])
    (post false).1 = .error (.insufficientFunds ⟨.ofNat 11⟩ ⟨-500, by decide⟩ (sampleCents 500)) ∧
      (post true).1 = .ok () := by
  decide

end Memory

end DepositLedger
