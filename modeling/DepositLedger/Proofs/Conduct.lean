import DepositLedger.Proofs.Conditions
import DepositLedger.Proofs.Script

/-! What a posting asks of a store and of those who look accounts up, whichever way they answer.
Every call is written down with its answer. What is written down then tells how the posting
has to end: a store may fail any call, and answer as it likes where it does not. -/

namespace DepositLedger

/-- A call that a posting makes, with its answer. -/
inductive Contact where
  | lookUp (ids : List AccountId) (answer : Except LedgerFault (List Account))
  | begin (answer : Except StoreFault Unit)
  | inUnit (call : UnitCall) (answer : Except StoreFault (List Movement))
  | commit (answer : Except StoreFault Unit)
  | rollback (answer : Except StoreFault Unit)

section

variable {σ υ ε α : Type}

/-- Takes a step and writes down with what outcome. -/
def Action.noted (note : Except ε α → Contact) (step : Action σ ε α) :
    Action (σ × List Contact) ε α :=
  fun (state, log) =>
    match step state with
    | (outcome, left) => (outcome, (left, log ++ [note outcome]))

private theorem Action.noted_of_eq (note : Except ε α → Contact) {step : Action σ ε α}
    {state left : σ}
    {outcome : Except ε α} (taken : step state = (outcome, left)) (log : List Contact) :
    step.noted note (state, log) = (outcome, (left, log ++ [note outcome])) := by
  rw [noted, taken]

def Action.notedInUnit (note : Except ε α → Contact) (step : Action (σ × υ) ε α) :
    Action ((σ × List Contact) × υ) ε α :=
  fun ((state, log), unit) =>
    match step (state, unit) with
    | (outcome, (left, unit)) => (outcome, ((left, log ++ [note outcome]), unit))

/-- The store with all calls and their answers written down. -/
def UnitStore.recorded (store : UnitStore σ υ) : UnitStore (σ × List Contact) υ where
  begin := store.begin.noted fun outcome => .begin (outcome.map fun _ => ())
  writeHeader transactionId timestamp recordedAt :=
    (store.writeHeader transactionId timestamp recordedAt).notedInUnit fun outcome =>
      .inUnit (.writeHeader transactionId timestamp recordedAt) (outcome.map fun _ => [])
  writeLine transactionId line :=
    (store.writeLine transactionId line).notedInUnit fun outcome =>
      .inUnit (.writeLine transactionId line) (outcome.map fun _ => [])
  movements accountId :=
    (store.movements accountId).notedInUnit (.inUnit (.readMovements accountId))
  commit unit := (store.commit unit).noted .commit
  rollback unit := (store.rollback unit).noted .rollback

private theorem begin_recorded {store : UnitStore σ υ} {state left : σ}
    {outcome : Except StoreFault υ}
    (begun : store.begin state = (outcome, left)) (log : List Contact) :
    store.recorded.begin (state, log) =
      (outcome, (left, log ++ [.begin (outcome.map fun _ => ())])) :=
  Action.noted_of_eq (fun outcome => .begin (outcome.map fun _ => ())) begun log

private theorem perform_recorded (store : UnitStore σ υ) (call : UnitCall) (state : σ)
    (log : List Contact) (unit : υ) :
    store.recorded.perform call ((state, log), unit) =
      match store.perform call (state, unit) with
      | (answer, (left, unit)) => (answer, ((left, log ++ [.inUnit call answer]), unit)) := by
  cases call with
  | writeHeader transactionId timestamp recordedAt =>
      rcases written : store.writeHeader transactionId timestamp recordedAt (state, unit) with
        ⟨_ | _, _⟩ <;>
        simp [UnitStore.perform, UnitStore.recorded, Action.notedInUnit, written, Except.map]
  | writeLine transactionId line =>
      rcases written : store.writeLine transactionId line (state, unit) with ⟨_ | _, _⟩ <;>
        simp [UnitStore.perform, UnitStore.recorded, Action.notedInUnit, written, Except.map]
  | readMovements accountId => rfl

end

/-! ## The steps of a posting -/

/-- What a posting does in its unit of work. -/
inductive PostingStep where
  | header
  | entry (line : TransactionLine)
  | balance (line : TransactionLine)

/-- The header, and then line by line the line and the balance that it leaves. The balance is
not asked for if the only line is a large initial deposit. -/
def Transaction.postingSteps (transaction : Transaction) (options : PostingOptions) :
    List PostingStep :=
  .header :: transaction.lines.flatMap fun line =>
    if transaction.IsLargeDeposit options then [.entry line] else [.entry line, .balance line]

namespace PostingStep

def call (transaction : Transaction) (recordedAt : Timestamp) : PostingStep → UnitCall
  | .header => .writeHeader transaction.id transaction.timestamp recordedAt
  | .entry line => .writeLine transaction.id line
  | .balance line => .readMovements line.accountId

/-- Why a posting goes no further after a step that is answered like this, if it does not. -/
def fault? (guard : OverdraftGuard) (transaction : Transaction) (options : PostingOptions)
    (accounts : List Account) :
    PostingStep → Except StoreFault (List Movement) → Option LedgerFault
  | .header, .error fault => some (.store fault)
  | .header, .ok _ => none
  | .entry line, .error (.uniqueViolation _) => some (.duplicateLine transaction.id line.accountId)
  | .entry _, .error (.database detail) => some (.store (.database detail))
  | .entry _, .ok _ =>
    if options.initialDeposit && transaction.lines.head?.any (·.purpose != .achCredit) then
      some (.initialDepositNotCredit transaction.id)
    else none
  | .balance _, .error fault => some (.store fault)
  | .balance line, .ok movements =>
    match balance? movements with
    | none => some (.balanceOverflow line.accountId)
    | some sum =>
      if !options.allowOverdraft && guard.checksFunds accounts transaction.lines &&
          !isCovered sum line then
        some (.insufficientFunds line.accountId sum line.amount)
      else none

end PostingStep

/-- Steps taken in their order, with their answers: all of them and none stops the posting, or
up to the first one that does. -/
inductive StepsTaken (fault? : PostingStep → Except StoreFault (List Movement) → Option LedgerFault)
    (steps : List PostingStep) :
    List (PostingStep × Except StoreFault (List Movement)) → Except LedgerFault Unit → Prop
  | all {taken : List (PostingStep × Except StoreFault (List Movement))}
      (order : taken.map Prod.fst = steps)
      (passed : ∀ each ∈ taken, fault? each.1 each.2 = none) :
      StepsTaken fault? steps taken (.ok ())
  | upTo {earlier : List (PostingStep × Except StoreFault (List Movement))} {step : PostingStep}
      {answer : Except StoreFault (List Movement)} {fault : LedgerFault}
      (order : earlier.map Prod.fst ++ [step] <+: steps)
      (passed : ∀ each ∈ earlier, fault? each.1 each.2 = none)
      (stopped : fault? step answer = some fault) :
      StepsTaken fault? steps (earlier ++ [(step, answer)]) (.error fault)

section

variable {fault? : PostingStep → Except StoreFault (List Movement) → Option LedgerFault}
  {step : PostingStep} {rest : List PostingStep} {answer : Except StoreFault (List Movement)}

private theorem StepsTaken.first {fault : LedgerFault} (stopped : fault? step answer = some fault) :
    StepsTaken fault? (step :: rest) [(step, answer)] (.error fault) :=
  @StepsTaken.upTo _ _ [] _ _ _ (List.prefix_append [step] rest) (fun _ member => nomatch member)
    stopped

private theorem StepsTaken.cons {taken : List (PostingStep × Except StoreFault (List Movement))}
    {outcome : Except LedgerFault Unit} (passed : fault? step answer = none)
    (later : StepsTaken fault? rest taken outcome) :
    StepsTaken fault? (step :: rest) ((step, answer) :: taken) outcome := by
  cases later with
  | all order laterPassed =>
      refine .all ?_ (List.forall_mem_cons.mpr ⟨passed, laterPassed⟩)
      rw [List.map_cons, order]
  | @upTo earlier last _ _ order laterPassed stopped =>
      have whole : (step :: earlier.map Prod.fst) ++ [last] <+: step :: rest :=
        List.cons_prefix_cons.mpr ⟨rfl, order⟩
      exact @StepsTaken.upTo _ _ ((step, answer) :: earlier) _ _ _ whole
        (List.forall_mem_cons.mpr ⟨passed, laterPassed⟩) stopped

/-- Takes steps in their order, up to the first one that stops. -/
def stepsScript (call : PostingStep → UnitCall)
    (fault? : PostingStep → Except StoreFault (List Movement) → Option LedgerFault) :
    List PostingStep → Script
  | [] => .done (.ok ())
  | step :: rest => .ask (call step) fun answer =>
    match fault? step answer with
    | some fault => .done (.error fault)
    | none => stepsScript call fault? rest

/-- Writing the answers down changes nothing about them, and they tell which steps are taken. -/
private theorem run_stepsScript_recorded {σ υ : Type} (store : UnitStore σ υ)
    (call : PostingStep → UnitCall)
    (fault? : PostingStep → Except StoreFault (List Movement) → Option LedgerFault)
    (steps : List PostingStep) (state : σ) (log : List Contact) (unit : υ) :
    ∃ outcome left unit' taken,
      (stepsScript call fault? steps).run store (state, unit) = (outcome, (left, unit')) ∧
      (stepsScript call fault? steps).run store.recorded ((state, log), unit) =
        (outcome, ((left, log ++ taken.map fun each => .inUnit (call each.1) each.2), unit')) ∧
      StepsTaken fault? steps taken outcome := by
  induction steps generalizing state log unit with
  | nil =>
      refine ⟨.ok (), state, unit, [], rfl, ?_, .all rfl fun _ member => nomatch member⟩
      rw [List.map_nil, List.append_nil]
      rfl
  | cons step rest induction =>
      rw [stepsScript, Script.run_ask, Script.run_ask, perform_recorded]
      rcases store.perform (call step) (state, unit) with ⟨answer, left, unit'⟩
      dsimp only
      cases stops : fault? step answer with
      | some fault => exact ⟨.error fault, left, unit', [(step, answer)], rfl, rfl, .first stops⟩
      | none =>
          rcases induction left (log ++ [.inUnit (call step) answer]) unit' with
            ⟨outcome, last, lastUnit, taken, plain, noted, order⟩
          refine ⟨outcome, last, lastUnit, (step, answer) :: taken, plain, ?_, .cons stops order⟩
          dsimp only
          rw [noted, List.append_assoc, List.map_cons, List.singleton_append]

end

section

variable {guard : OverdraftGuard} {transaction : Transaction} {options : PostingOptions}
  {accounts : List Account} {recordedAt : Timestamp} {first : TransactionLine}
  {rest : List TransactionLine}

/-- A posting as steps taken in order, each as long as none before it has stopped it. -/
abbrev takeSteps (guard : OverdraftGuard) (transaction : Transaction) (options : PostingOptions)
    (accounts : List Account) (recordedAt : Timestamp) : List PostingStep → Script :=
  stepsScript (PostingStep.call transaction recordedAt)
    (PostingStep.fault? guard transaction options accounts)

private theorem linesScript_cons_eq (linesOf : transaction.lines = first :: rest)
    {line : TransactionLine} {lines : List TransactionLine} {later : List PostingStep}
    (goesOn : (PostingRules.of guard transaction options accounts first).wrongDeposit = false →
      (PostingRules.of guard transaction options accounts first).checkScript line
        ((PostingRules.of guard transaction options accounts first).linesScript lines) =
          takeSteps guard transaction options accounts recordedAt later) :
    (PostingRules.of guard transaction options accounts first).linesScript (line :: lines) =
      takeSteps guard transaction options accounts recordedAt (.entry line :: later) := by
  have wrong : (PostingRules.of guard transaction options accounts first).wrongDeposit =
      (options.initialDeposit && transaction.lines.head?.any (·.purpose != .achCredit)) := by
    rw [linesOf]
    rfl
  rw [PostingRules.linesScript, takeSteps, stepsScript]
  congr 1
  funext answer
  rcases answer with (_ | _) | _
  · rfl
  · rfl
  · dsimp only
    rw [PostingStep.fault?, ← wrong]
    cases deposit : (PostingRules.of guard transaction options accounts first).wrongDeposit with
    | true => rw [PostingRules.checkScript, deposit, if_pos rfl, if_pos rfl]; rfl
    | false => rw [goesOn deposit, if_neg Bool.false_ne_true]

private theorem balanceScript_eq {line : TransactionLine} (named : line.accountId ≠ EntityId.nil)
    (later : List PostingStep) :
    (PostingRules.balanceScript line.accountId fun balance =>
        if (PostingRules.of guard transaction options accounts first).checksFunds &&
            !isCovered balance line then
          .done (.error (.insufficientFunds line.accountId balance line.amount))
        else takeSteps guard transaction options accounts recordedAt later) =
      takeSteps guard transaction options accounts recordedAt (.balance line :: later) := by
  rw [PostingRules.balanceScript, if_neg fun nil => named (EntityId.isNil_iff.mp nil), takeSteps,
    stepsScript]
  congr 1
  funext answer
  cases answer with
  | error fault => rfl
  | ok movements =>
      dsimp only
      rw [PostingStep.fault?, settle]
      cases balance? movements with
      | none => rfl
      | some balance =>
          dsimp only
          rw [PostingRules.of]
          split <;> rfl

private theorem linesScript_eq (linesOf : transaction.lines = first :: rest)
    {lines : List TransactionLine} (named : ∀ line ∈ lines, line.accountId ≠ EntityId.nil) :
    (PostingRules.of guard transaction options accounts first).linesScript lines =
      takeSteps guard transaction options accounts recordedAt
        (lines.flatMap fun line =>
          if transaction.IsLargeDeposit options then [.entry line]
          else [.entry line, .balance line]) := by
  have skips : (PostingRules.of guard transaction options accounts first).skipsBalance = false ↔
      ¬ transaction.IsLargeDeposit options := PostingRules.of_skipsBalance_eq_false_iff linesOf
  induction lines with
  | nil => rfl
  | cons line lines induction =>
      rcases List.forall_mem_cons.mp named with ⟨lineNamed, linesNamed⟩
      have later := induction linesNamed
      rw [List.flatMap_cons]
      by_cases large : transaction.IsLargeDeposit options
      · rw [if_pos large, List.singleton_append]
        apply linesScript_cons_eq linesOf
        intro deposit
        have unasked := eq_true_of_ne_false fun asked => skips.mp asked large
        rw [PostingRules.checkScript, deposit, unasked, if_neg Bool.false_ne_true, if_pos rfl]
        exact later
      · rw [if_neg large]
        apply linesScript_cons_eq linesOf
        intro deposit
        rw [PostingRules.checkScript, deposit, skips.mpr large, if_neg Bool.false_ne_true,
          if_neg Bool.false_ne_true, later]
        exact balanceScript_eq lineNamed _

private theorem writingScript_eq (shaped : transaction.Shaped) :
    writingScript guard transaction options accounts recordedAt =
      takeSteps guard transaction options accounts recordedAt
        (transaction.postingSteps options) := by
  rcases List.exists_cons_of_ne_nil shaped.nonempty with ⟨first, rest, linesOf⟩
  have written : (PostingRules.of guard transaction options accounts first).linesScript
      transaction.lines = takeSteps guard transaction options accounts recordedAt _ :=
    linesScript_eq linesOf fun line member => (shaped.lines line member).named
  rw [writingScript, Transaction.postingSteps, takeSteps, stepsScript]
  congr 1
  funext answer
  cases answer with
  | error fault => rfl
  | ok =>
      rw [linesOf] at written ⊢
      exact written

/-- What is written down while a transaction is written is what its steps tell. -/
private theorem writeTransaction_recorded {σ υ : Type} (store : UnitStore σ υ)
    (shaped : transaction.Shaped) (state : σ) (log : List Contact) (unit : υ) :
    ∃ outcome left last taken,
      writeTransaction store guard transaction options accounts recordedAt (state, unit) =
        (outcome, (left, last)) ∧
      writeTransaction store.recorded guard transaction options accounts recordedAt
          ((state, log), unit) =
        (outcome, ((left, log ++ taken.map fun each =>
          .inUnit (each.1.call transaction recordedAt) each.2), last)) ∧
      StepsTaken (PostingStep.fault? guard transaction options accounts)
        (transaction.postingSteps options) taken outcome := by
  rw [← run_writingScript, ← run_writingScript, writingScript_eq shaped]
  exact run_stepsScript_recorded store _ _ _ state log unit

/-! ## Looking accounts up -/

/-- The first account that is missing is that of the first line without one. -/
private theorem firstMissing?_touchedAccounts (transaction : Transaction)
    (accounts : List Account) :
    firstMissing? transaction.touchedAccounts accounts =
      (transaction.lines.find? fun line => !accounts.any (·.id == line.accountId)).map
        (·.accountId) := by
  rw [firstMissing?, Transaction.touchedAccounts, Memory.find?_eraseDups,
    List.find?_map]
  rfl

/-! ## What is written down of a posting -/

/-- What is written down of a posting, and how it ends. -/
inductive Conduct (guard : OverdraftGuard) (transaction : Transaction) (options : PostingOptions)
    (recordedAt : Timestamp) : List Contact → Except LedgerFault Unit → Prop
  | invalid {fault : ValidationFault} (refused : transaction.checkFor options = .error fault) :
      Conduct guard transaction options recordedAt [] (.error (.validation fault))
  | unread {fault : LedgerFault} (checked : transaction.checkFor options = .ok ()) :
      Conduct guard transaction options recordedAt
        [.lookUp transaction.touchedAccounts (.error fault)] (.error fault)
  | missing {accounts : List Account} {line : TransactionLine}
      (checked : transaction.checkFor options = .ok ())
      (lacking : transaction.lines.find? (fun line => !accounts.any (·.id == line.accountId)) =
        some line) :
      Conduct guard transaction options recordedAt
        [.lookUp transaction.touchedAccounts (.ok accounts)]
        (.error (.accountNotFound line.accountId))
  | notBegun {accounts : List Account} {fault : StoreFault}
      (checked : transaction.checkFor options = .ok ())
      (found : ∀ line ∈ transaction.lines, ∃ account ∈ accounts, account.id = line.accountId) :
      Conduct guard transaction options recordedAt
        [.lookUp transaction.touchedAccounts (.ok accounts), .begin (.error fault)]
        (.error (.store fault))
  | rolledBack {accounts : List Account}
      {taken : List (PostingStep × Except StoreFault (List Movement))} {fault : LedgerFault}
      {answer : Except StoreFault Unit} (checked : transaction.checkFor options = .ok ())
      (found : ∀ line ∈ transaction.lines, ∃ account ∈ accounts, account.id = line.accountId)
      (stopped : StepsTaken (PostingStep.fault? guard transaction options accounts)
        (transaction.postingSteps options) taken (.error fault)) :
      Conduct guard transaction options recordedAt
        ([.lookUp transaction.touchedAccounts (.ok accounts), .begin (.ok ())] ++
          taken.map (fun each => .inUnit (each.1.call transaction recordedAt) each.2) ++
          [.rollback answer])
        (.error fault)
  | committed {accounts : List Account}
      {taken : List (PostingStep × Except StoreFault (List Movement))}
      {answer : Except StoreFault Unit} (checked : transaction.checkFor options = .ok ())
      (found : ∀ line ∈ transaction.lines, ∃ account ∈ accounts, account.id = line.accountId)
      (all : StepsTaken (PostingStep.fault? guard transaction options accounts)
        (transaction.postingSteps options) taken (.ok ())) :
      Conduct guard transaction options recordedAt
        ([.lookUp transaction.touchedAccounts (.ok accounts), .begin (.ok ())] ++
          taken.map (fun each => .inUnit (each.1.call transaction recordedAt) each.2) ++
          [.commit answer])
        (answer.mapError LedgerFault.store)

/-- A posting succeeds exactly if its commit does. -/
theorem Conduct.ok_iff {log : List Contact} {outcome : Except LedgerFault Unit}
    (conduct : Conduct guard transaction options recordedAt log outcome) :
    outcome = .ok () ↔ .commit (.ok ()) ∈ log := by
  cases conduct with
  | invalid | unread | missing | notBegun | rolledBack => simp
  | @committed _ _ answer => rcases answer with _ | ⟨⟨⟩⟩ <;> simp [Except.mapError]

/-! ## How a posting ends, told from the answers to its calls -/

section

variable {σ υ : Type} {store : UnitStore σ υ}
  {lookUp : List AccountId → Action σ LedgerFault (List Account)} {state read opened written : σ}
  {unit last : υ}

private theorem postTransaction_of_invalid {fault : ValidationFault}
    (refused : transaction.checkFor options = .error fault) :
    postTransaction store guard lookUp transaction options recordedAt state =
      (.error (.validation fault), state) := by
  rw [postTransaction, Action.bind_apply, refused]
  rfl

private theorem postTransaction_of_unread {fault : LedgerFault}
    (checked : transaction.checkFor options = .ok ())
    (failed : lookUp transaction.touchedAccounts state = (.error fault, read)) :
    postTransaction store guard lookUp transaction options recordedAt state =
      (.error fault, read) := by
  rw [postTransaction, Action.bind_apply, checked]
  simp only [Action.mapError, Action.ofExcept, Action.bind_apply, failed]

private theorem postTransaction_of_missing {missing : AccountId}
    (checked : transaction.checkFor options = .ok ())
    (found : lookUp transaction.touchedAccounts state = (.ok accounts, read))
    (lacking : firstMissing? transaction.touchedAccounts accounts = some missing) :
    postTransaction store guard lookUp transaction options recordedAt state =
      (.error (.accountNotFound missing), read) := by
  rw [postTransaction, Action.bind_apply, checked]
  simp only [Action.mapError, Action.ofExcept, Action.bind_apply, found, lacking]
  rfl

variable (checked : transaction.checkFor options = .ok ())
  (found : lookUp transaction.touchedAccounts state = (.ok accounts, read))
  (noneMissing : firstMissing? transaction.touchedAccounts accounts = none)

include checked found noneMissing

private theorem postTransaction_of_not_begun {fault : StoreFault}
    (failed : store.begin read = (.error fault, opened)) :
    postTransaction store guard lookUp transaction options recordedAt state =
      (.error (.store fault), opened) := by
  rw [postTransaction, Action.bind_apply, checked]
  simp only [Action.mapError, Action.ofExcept, Action.bind_apply, found, noneMissing, failed]

private theorem postTransaction_of_stopped {fault : LedgerFault}
    (begun : store.begin read = (.ok unit, opened))
    (stopped : writeTransaction store guard transaction options accounts recordedAt (opened, unit) =
      (.error fault, (written, last))) :
    postTransaction store guard lookUp transaction options recordedAt state =
      (.error fault, (store.rollback last written).2) := by
  rw [postTransaction, Action.bind_apply, checked]
  simp only [Action.mapError, Action.ofExcept, Action.bind_apply, found, noneMissing, begun,
    Action.attemptWith, stopped, Action.attempt]
  rfl

private theorem postTransaction_of_written (begun : store.begin read = (.ok unit, opened))
    (passed : writeTransaction store guard transaction options accounts recordedAt (opened, unit) =
      (.ok (), (written, last))) :
    postTransaction store guard lookUp transaction options recordedAt state =
      ((store.commit last written).1.mapError LedgerFault.store,
        (store.commit last written).2) := by
  rw [postTransaction, Action.bind_apply, checked]
  simp only [Action.mapError, Action.ofExcept, Action.bind_apply, found, noneMissing, begun,
    Action.attemptWith, passed]
  rcases store.commit last written with ⟨_ | _, _⟩ <;> rfl

end

/-- What is written down of any posting tells how it ends, and writing it down changes nothing
about how it ends. -/
theorem exists_conduct {σ υ : Type} (store : UnitStore σ υ) (guard : OverdraftGuard)
    (lookUp : List AccountId → Action σ LedgerFault (List Account)) (transaction : Transaction)
    (options : PostingOptions) (recordedAt : Timestamp) (state : σ) :
    ∃ outcome left log,
      postTransaction store guard lookUp transaction options recordedAt state = (outcome, left) ∧
      postTransaction store.recorded guard (fun ids => (lookUp ids).noted (.lookUp ids)) transaction
        options recordedAt (state, []) = (outcome, (left, log)) ∧
      Conduct guard transaction options recordedAt log outcome := by
  rcases checked : transaction.checkFor options with fault | ⟨⟨⟩⟩
  · exact ⟨_, _, _, postTransaction_of_invalid checked, postTransaction_of_invalid checked,
      .invalid checked⟩
  · rcases read : lookUp transaction.touchedAccounts state with ⟨fault | accounts, left⟩
    · have noted := Action.noted_of_eq (.lookUp transaction.touchedAccounts) read []
      exact ⟨_, _, _, postTransaction_of_unread checked read,
        postTransaction_of_unread checked noted, .unread checked⟩
    · have noted := Action.noted_of_eq (.lookUp transaction.touchedAccounts) read []
      have searched := firstMissing?_touchedAccounts transaction accounts
      cases lacking :
          transaction.lines.find? fun line => !accounts.any (·.id == line.accountId) with
      | some line =>
          rw [lacking, Option.map_some] at searched
          exact ⟨_, _, _, postTransaction_of_missing checked read searched,
            postTransaction_of_missing checked noted searched, .missing checked lacking⟩
      | none =>
          rw [lacking, Option.map_none] at searched
          have known : ∀ line ∈ transaction.lines,
              ∃ account ∈ accounts, account.id = line.accountId := by
            intro line member
            simpa using List.find?_eq_none.mp lacking line member
          rcases begun : store.begin left with ⟨fault | unit, opened⟩
          · have notedBegin := begin_recorded begun
              [.lookUp transaction.touchedAccounts (.ok accounts)]
            exact ⟨_, _, _, postTransaction_of_not_begun checked read searched begun,
              postTransaction_of_not_begun checked noted searched notedBegin,
              .notBegun checked known⟩
          · have notedBegin := begin_recorded begun
              [.lookUp transaction.touchedAccounts (.ok accounts)]
            have shaped := Transaction.shaped_of_checkFor checked
            rcases writeTransaction_recorded store shaped opened _ unit with
              ⟨outcome, written, last, taken, plain, recorded, steps⟩
            rcases outcome with fault | ⟨⟨⟩⟩
            · exact ⟨_, _, _, postTransaction_of_stopped checked read searched begun plain,
                postTransaction_of_stopped checked noted searched notedBegin recorded,
                .rolledBack checked known steps⟩
            · exact ⟨_, _, _, postTransaction_of_written checked read searched begun plain,
                postTransaction_of_written checked noted searched notedBegin recorded,
                .committed checked known steps⟩

/-- Whatever a store answers and whichever calls it fails, and whatever accounts are found: a
posting asks for what `Conduct` tells, in that order and for nothing else, and ends as it tells. -/
theorem posting_conduct {σ υ : Type} (store : UnitStore σ υ) (guard : OverdraftGuard)
    (lookUp : List AccountId → Action σ LedgerFault (List Account)) (transaction : Transaction)
    (options : PostingOptions) (recordedAt : Timestamp) (state : σ) :
    ∃ outcome left log,
      postTransaction store guard lookUp transaction options recordedAt state = (outcome, left) ∧
      postTransaction store.recorded guard (fun ids => (lookUp ids).noted (.lookUp ids)) transaction
        options recordedAt (state, []) = (outcome, (left, log)) ∧
      Conduct guard transaction options recordedAt log outcome ∧
      (outcome = .ok () ↔ .commit (.ok ()) ∈ log) := by
  rcases exists_conduct store guard lookUp transaction options recordedAt state with
    ⟨outcome, left, log, plain, recorded, conduct⟩
  exact ⟨outcome, left, log, plain, recorded, conduct, conduct.ok_iff⟩

end

end DepositLedger
