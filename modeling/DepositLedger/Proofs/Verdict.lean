import DepositLedger.Proofs.Rows
import DepositLedger.Proofs.Validation

/-! Posting on a ledger in memory, without the unit of work. Whether a transaction
is posted, and with which fault it is refused, is told from the ledger, the
transaction and the options; what posting does to the ledger is told by `posted`. -/

namespace DepositLedger

open Memory

namespace PostingRules

variable (rules : PostingRules) (ledger : Ledger)

/-- What the check of a written line says, where no earlier line of the transaction
is on its account. -/
def checkVerdict (line : TransactionLine) : Except LedgerFault Unit :=
  if rules.wrongDeposit then .error (.initialDepositNotCredit rules.transactionId)
  else if rules.skipsBalance then .ok ()
  else
    match balance? (movementsOf ledger.lines line.accountId ++ [line.toMovement]) with
    | none => .error (.balanceOverflow line.accountId)
    | some balance =>
      if rules.checksFunds && !isCovered balance line then
        .error (.insufficientFunds line.accountId balance line.amount)
      else .ok ()

/-- What posting a line says after earlier lines of the transaction have passed. -/
def lineVerdict (earlier : List TransactionLine) (line : TransactionLine) :
    Except LedgerFault Unit :=
  if hasLine (keepLines rules.transactionId earlier) rules.transactionId line.accountId ||
      hasLine ledger.lines rules.transactionId line.accountId then
    .error (.duplicateLine rules.transactionId line.accountId)
  else rules.checkVerdict ledger line

/-- What posting lines in order says after earlier lines have passed. -/
def linesVerdict : (earlier lines : List TransactionLine) → Except LedgerFault Unit
  | _, [] => .ok ()
  | earlier, line :: rest =>
    match rules.lineVerdict ledger earlier line with
    | .error fault => .error fault
    | .ok () => linesVerdict (earlier ++ [line]) rest

end PostingRules

namespace Memory.Ledger

/-- What writing a transaction says whose accounts have been looked up. -/
def writtenVerdict (ledger : Ledger) (guard : OverdraftGuard) (transaction : Transaction)
    (options : PostingOptions) (accounts : List Account) : Except LedgerFault Unit :=
  if hasHeader ledger.headers transaction.id then
    .error (.store (headerTaken transaction.id))
  else
    match transaction.lines with
    | [] => .error (.validation .noLines)
    | first :: _ =>
      (PostingRules.of guard transaction options accounts first).linesVerdict ledger []
        transaction.lines

/-- Whether a transaction is posted, and if not, why. -/
def verdict (ledger : Ledger) (guard : OverdraftGuard) (transaction : Transaction)
    (options : PostingOptions) : Except LedgerFault Unit :=
  match transaction.checkFor options with
  | .error fault => .error (.validation fault)
  | .ok () =>
    match ledger.accountsById transaction.touchedAccounts with
    | .error fault => .error fault
    | .ok accounts =>
      match firstMissing? transaction.touchedAccounts accounts with
      | some missing => .error (.accountNotFound missing)
      | none => ledger.writtenVerdict guard transaction options accounts

end Memory.Ledger

/-! ## The unit of work of a posting

It holds the lines that have passed, and what is shared does not change until the unit
is committed. -/

/-- The unit of work of a transaction on a store that holds what `ledger` holds: a unit that
`stands` at the lines that have been written holds these besides. -/
structure KeepsLines {σ υ : Type} (store : UnitStore σ υ) (ledger : Ledger)
    (transactionId : TransactionId) (state : σ) (stands : List TransactionLine → υ → Prop) :
    Prop where
  taken : ∀ {earlier : List TransactionLine} {line : TransactionLine} {unit : υ},
    stands earlier unit →
    (hasLine (keepLines transactionId earlier) transactionId line.accountId ||
      hasLine ledger.lines transactionId line.accountId) = true →
    ∃ detail after, store.writeLine transactionId line (state, unit) =
      (.error (.uniqueViolation detail), (state, after)) ∧ stands earlier after
  free : ∀ {earlier : List TransactionLine} {line : TransactionLine} {unit : υ},
    stands earlier unit →
    (hasLine (keepLines transactionId earlier) transactionId line.accountId ||
      hasLine ledger.lines transactionId line.accountId) = false →
    ∃ after, store.writeLine transactionId line (state, unit) = (.ok (), (state, after)) ∧
      stands (earlier ++ [line]) after
  movements : ∀ {earlier : List TransactionLine} {unit : υ}, stands earlier unit →
    ∀ accountId : AccountId, store.movements accountId (state, unit) =
      (.ok (movementsOf ledger.lines accountId ++
        movementsOf (keepLines transactionId earlier) accountId), (state, unit))

private theorem KeepsLines.balanceOf_apply {σ υ : Type} {store : UnitStore σ υ} {ledger : Ledger}
    {transactionId : TransactionId} {state : σ} {stands : List TransactionLine → υ → Prop}
    (keeps : KeepsLines store ledger transactionId state stands)
    {earlier : List TransactionLine} {unit : υ} (reached : stands earlier unit)
    {accountId : AccountId} (named : accountId ≠ EntityId.nil) :
    store.balanceOf accountId (state, unit) =
      (settle accountId (movementsOf ledger.lines accountId ++
        movementsOf (keepLines transactionId earlier) accountId), (state, unit)) := by
  rw [UnitStore.balanceOf, if_neg fun nil => named (EntityId.isNil_iff.mp nil),
    Action.bind_apply, Action.mapError, keeps.movements reached]
  rfl

namespace PostingRules

variable (rules : PostingRules) {σ υ : Type} {store : UnitStore σ υ} {ledger : Ledger}
  {state : σ} {stands : List TransactionLine → υ → Prop}
  {earlier : List TransactionLine} {unit : υ}

private theorem writeLine_of_taken
    (keeps : KeepsLines store ledger rules.transactionId state stands)
    (reached : stands earlier unit) {line : TransactionLine}
    (taken : (hasLine (keepLines rules.transactionId earlier) rules.transactionId line.accountId ||
      hasLine ledger.lines rules.transactionId line.accountId) = true) :
    ∃ after, rules.writeLine store line (state, unit) =
      (.error (.duplicateLine rules.transactionId line.accountId), (state, after)) ∧
        stands earlier after := by
  rcases keeps.taken reached taken with ⟨detail, after, written, reached⟩
  rw [writeLine, Action.mapError, written]
  exact ⟨after, rfl, reached⟩

private theorem writeLine_of_free (keeps : KeepsLines store ledger rules.transactionId state stands)
    (reached : stands earlier unit) {line : TransactionLine}
    (free : (hasLine (keepLines rules.transactionId earlier) rules.transactionId line.accountId ||
      hasLine ledger.lines rules.transactionId line.accountId) = false) :
    ∃ after, rules.writeLine store line (state, unit) = (.ok (), (state, after)) ∧
      stands (earlier ++ [line]) after := by
  rcases keeps.free reached free with ⟨after, written, reached⟩
  rw [writeLine, Action.mapError, written]
  exact ⟨after, rfl, reached⟩

private theorem checkLine_apply (keeps : KeepsLines store ledger rules.transactionId state stands)
    {line : TransactionLine} (reached : stands (earlier ++ [line]) unit)
    (named : line.accountId ≠ EntityId.nil)
    (first : hasLine (keepLines rules.transactionId earlier) rules.transactionId
      line.accountId = false) :
    rules.checkLine store line (state, unit) =
      (rules.checkVerdict ledger line, (state, unit)) := by
  have own : movementsOf (keepLines rules.transactionId (earlier ++ [line])) line.accountId =
      [line.toMovement] := by
    rw [keepLines_append, movementsOf_append, movementsOf_eq_nil]
    · simp [movementsOf, keepLines]
    · intro posted member
      exact hasLine_eq_false_iff.mp first posted member (mem_keepLines.mp member).1
  unfold checkLine checkVerdict
  by_cases wrong : rules.wrongDeposit
  · rw [if_pos wrong, if_pos wrong]
    rfl
  · rw [if_neg wrong, if_neg wrong]
    by_cases skips : rules.skipsBalance
    · rw [if_pos skips, if_pos skips]
      rfl
    · rw [if_neg skips, if_neg skips, Action.bind_apply, keeps.balanceOf_apply reached named,
        own, settle]
      cases balance? (movementsOf ledger.lines line.accountId ++ [line.toMovement]) with
      | none => rfl
      | some balance =>
          by_cases short : (rules.checksFunds && !isCovered balance line) = true
          · simp only [if_pos short]
            rfl
          · simp only [if_neg short]
            rfl

/-- Writing lines says what `linesVerdict` says; if all pass, all are in the unit. -/
theorem writeLines_apply (keeps : KeepsLines store ledger rules.transactionId state stands)
    (lines : List TransactionLine) (reached : stands earlier unit)
    (named : ∀ line ∈ lines, line.accountId ≠ EntityId.nil) :
    ∃ written after,
      rules.writeLines store lines (state, unit) =
        (rules.linesVerdict ledger earlier lines, (state, after)) ∧ stands written after ∧
      (rules.linesVerdict ledger earlier lines = .ok () → written = earlier ++ lines) := by
  -- What is in the unit is told by the lines that have passed, so they grow with the induction.
  induction lines generalizing earlier unit with
  | nil => exact ⟨_, _, rfl, reached, fun _ => by rw [List.append_nil]⟩
  | cons line rest induction =>
      rcases List.forall_mem_cons.mp named with ⟨lineNamed, restNamed⟩
      rw [writeLines, linesVerdict, lineVerdict, Action.bind_apply]
      by_cases duplicate : (hasLine (keepLines rules.transactionId earlier)
          rules.transactionId line.accountId ||
            hasLine ledger.lines rules.transactionId line.accountId) = true
      · rcases rules.writeLine_of_taken keeps reached duplicate with ⟨after, wrote, stayed⟩
        rw [wrote, if_pos duplicate]
        exact ⟨_, _, rfl, stayed, fun passed => nomatch passed⟩
      · have free := Bool.eq_false_iff.mpr duplicate
        rcases rules.writeLine_of_free keeps reached free with ⟨after, wrote, grown⟩
        rw [wrote, if_neg duplicate]
        have first := (Bool.or_eq_false_iff.mp free).1
        simp only [Action.bind_apply, checkLine_apply rules keeps grown lineNamed first]
        cases rules.checkVerdict ledger line with
        | error fault => exact ⟨_, _, rfl, grown, fun passed => nomatch passed⟩
        | ok =>
            rcases induction grown restNamed with ⟨written, after, run, standing, complete⟩
            refine ⟨written, after, run, standing, fun passed => ?_⟩
            rw [complete passed, List.append_assoc, List.singleton_append]

/-- Lines pass together if each passes on its own and no two of them, or of the
earlier lines, are on one account. -/
theorem linesVerdict_ok_iff (ledger : Ledger) (earlier lines : List TransactionLine) :
    rules.linesVerdict ledger earlier lines = .ok () ↔
      (∀ line ∈ lines, hasLine ledger.lines rules.transactionId line.accountId = false ∧
        (∀ other ∈ earlier, other.accountId ≠ line.accountId) ∧
        rules.checkVerdict ledger line = .ok ()) ∧
      (lines.map (·.accountId)).Nodup := by
  induction lines generalizing earlier with
  | nil => simp [linesVerdict]
  | cons line rest induction =>
      rw [List.forall_mem_cons, List.map_cons, List.nodup_cons]
      have staged : hasLine (keepLines rules.transactionId earlier) rules.transactionId
          line.accountId = false ↔ ∀ other ∈ earlier, other.accountId ≠ line.accountId := by
        simp [hasLine, keepLines]
      have step : rules.lineVerdict ledger earlier line = .ok () ↔
          hasLine ledger.lines rules.transactionId line.accountId = false ∧
            (∀ other ∈ earlier, other.accountId ≠ line.accountId) ∧
            rules.checkVerdict ledger line = .ok () := by
        rw [lineVerdict, ← staged]
        cases hasLine (keepLines rules.transactionId earlier) rules.transactionId
            line.accountId <;>
          cases hasLine ledger.lines rules.transactionId line.accountId <;> simp
      rw [linesVerdict, ← step]
      cases lineVerdict rules ledger earlier line with
      | error fault => simp
      | ok =>
          simp only [induction, List.forall_mem_append, List.forall_mem_singleton]
          constructor
          · intro holds
            rcases holds with ⟨each, nodup⟩
            refine ⟨⟨trivial, fun other member => ?_⟩, ?_, nodup⟩
            · exact ⟨(each other member).1, (each other member).2.1.1, (each other member).2.2⟩
            · intro repeated
              rcases List.mem_map.mp repeated with ⟨other, member, same⟩
              exact (each other member).2.1.2 same.symm
          · intro holds
            rcases holds with ⟨⟨_, each⟩, notLater, nodup⟩
            refine ⟨fun other member => ?_, nodup⟩
            exact ⟨(each other member).1,
              ⟨(each other member).2.1, fun same =>
                notLater (List.mem_map.mpr ⟨other, member, same.symm⟩)⟩,
              (each other member).2.2⟩

end PostingRules

namespace Memory.Ledger

/-- What is staged on a ledger is beside it. -/
private theorem keepsLines_store (ledger : Ledger) (transactionId : TransactionId)
    (headers : List Header) :
    KeepsLines store ledger transactionId ledger
      fun lines staging => staging = ⟨headers, keepLines transactionId lines⟩ where
  taken := by
    rintro earlier line staging rfl taken
    simp only [store, Staging.stageLine, if_pos taken]
    exact ⟨_, _, rfl, rfl⟩
  free := by
    rintro earlier line staging rfl free
    simp only [store, Staging.stageLine, free, keepLines_append]
    exact ⟨_, rfl, rfl⟩
  movements := by
    rintro earlier staging rfl accountId
    rfl

/-- A transaction written into a unit of its own leaves what its verdict says, and can
be committed if it passes. -/
theorem writeTransaction_store (ledger : Ledger) (guard : OverdraftGuard)
    {transaction : Transaction} (options : PostingOptions) (accounts : List Account)
    (recordedAt : Timestamp) (named : ∀ line ∈ transaction.lines, line.accountId ≠ EntityId.nil) :
    ∃ staging : Staging,
      writeTransaction store guard transaction options accounts recordedAt (ledger, {}) =
        (ledger.writtenVerdict guard transaction options accounts, (ledger, staging)) ∧
      (ledger.writtenVerdict guard transaction options accounts = .ok () →
        ledger.commit staging = .ok (ledger.posted transaction)) := by
  have header : store.writeHeader transaction.id transaction.timestamp recordedAt (ledger, {}) =
      if hasHeader ledger.headers transaction.id then
        (.error (headerTaken transaction.id), (ledger, {}))
      else (.ok (), (ledger, ⟨[⟨transaction.id, transaction.timestamp⟩], []⟩)) := by
    have noneStaged : hasHeader [] transaction.id = false := rfl
    simp only [store, Staging.stageHeader, noneStaged, Bool.false_or]
    cases hasHeader ledger.headers transaction.id <;> rfl
  unfold writeTransaction writtenVerdict
  rw [Action.bind_apply, Action.mapError, header]
  by_cases taken : hasHeader ledger.headers transaction.id = true
  · rw [if_pos taken, if_pos taken]
    exact ⟨_, rfl, fun passed => nomatch passed⟩
  · rw [if_neg taken, if_neg taken]
    cases linesOf : transaction.lines with
    | nil => exact ⟨_, rfl, fun passed => nomatch passed⟩
    | cons first rest =>
        rw [linesOf] at named
        let headers : List Header := [⟨transaction.id, transaction.timestamp⟩]
        have noLines : (⟨headers, []⟩ : Staging) = ⟨headers, keepLines transaction.id []⟩ := rfl
        rcases (PostingRules.of guard transaction options accounts first).writeLines_apply
          (ledger.keepsLines_store transaction.id headers) (first :: rest) noLines named with
          ⟨written, staging, run, rfl, complete⟩
        refine ⟨_, run, fun passed => ?_⟩
        rw [complete passed, List.nil_append]
        rw [PostingRules.linesVerdict_ok_iff] at passed
        rcases ledger.commit_cases ⟨[⟨transaction.id, transaction.timestamp⟩],
          keepLines transaction.id (first :: rest)⟩ with ⟨_, committed⟩ | ⟨clash, _⟩
        · rw [posted, linesOf]
          exact committed
        · rcases clash with ⟨header, member, used⟩ | ⟨posted, member, used⟩
          · rw [List.mem_singleton.mp member] at used
            exact (taken (hasHeader_iff.mpr used)).elim
          · rcases mem_keepLines.mp member with ⟨same, lineMember⟩
            have free := (passed.1 posted.line lineMember).1
            rw [PostedLine.key, same, ← hasLine_iff] at used
            exact (Bool.eq_false_iff.mp free used).elim

/-- Posting answers with the verdict, and adds the transaction exactly if it passes. -/
theorem post_apply (ledger : Ledger) (guard : OverdraftGuard) (transaction : Transaction)
    (options : PostingOptions) (recordedAt : Timestamp) :
    (operations guard).post transaction options recordedAt ledger =
      (ledger.verdict guard transaction options,
        match ledger.verdict guard transaction options with
        | .ok () => ledger.posted transaction
        | .error _ => ledger) := by
  simp only [operations, postTransaction, Action.bind_apply, Action.mapError, Action.ofExcept,
    Action.inspect, verdict]
  rcases checked : transaction.checkFor options with fault | ⟨⟨⟩⟩
  · rfl
  · have shaped := Transaction.shaped_of_checkFor checked
    dsimp only
    cases ledger.accountsById transaction.touchedAccounts with
    | error fault => rfl
    | ok accounts =>
        dsimp only
        cases firstMissing? transaction.touchedAccounts accounts with
        | some missing => rfl
        | none =>
            rcases ledger.writeTransaction_store guard options accounts recordedAt
              fun line member => (shaped.lines line member).named with ⟨staging, run, committed⟩
            have opened : (store.begin.mapError LedgerFault.store) ledger = (.ok {}, ledger) := rfl
            simp only [Action.bind_apply, opened, Action.attemptWith, run]
            rcases outcome : ledger.writtenVerdict guard transaction options accounts
              with fault | ⟨⟨⟩⟩
            · rfl
            · simp only [Action.mapError, store, Action.alter, committed outcome]

end Memory.Ledger

end DepositLedger
