import DepositLedger.Posting

/-! Writing a transaction call by call. A script says what is asked of a unit of work
next and how its writer goes on with each answer, so that the calls of several writers
can be put in any order. -/

namespace DepositLedger

/-- A call in a unit of work. -/
inductive UnitCall where
  | writeHeader (transactionId : TransactionId) (timestamp recordedAt : Timestamp)
  | writeLine (transactionId : TransactionId) (line : TransactionLine)
  | readMovements (accountId : AccountId)

inductive Script where
  | done (outcome : Except LedgerFault Unit)
  | ask (call : UnitCall) (next : Except StoreFault (List Movement) → Script)

section

variable {σ υ : Type}

/-- Makes a call in a unit of work. Writing is answered with no movements. -/
def UnitStore.perform (store : UnitStore σ υ) :
    UnitCall → Action (σ × υ) StoreFault (List Movement)
  | .writeHeader transactionId timestamp recordedAt => do
    store.writeHeader transactionId timestamp recordedAt
    pure []
  | .writeLine transactionId line => do
    store.writeLine transactionId line
    pure []
  | .readMovements accountId => store.movements accountId

/-- Makes the calls of a script with nothing between them. -/
def Script.run (store : UnitStore σ υ) : Script → Action (σ × υ) LedgerFault Unit
  | .done outcome => Action.ofExcept outcome
  | .ask call next => fun state =>
    match store.perform call state with
    | (answer, state) => (next answer).run store state

theorem Script.run_ask (store : UnitStore σ υ) (call : UnitCall)
    (next : Except StoreFault (List Movement) → Script) (state : σ × υ) :
    (Script.ask call next).run store state =
      match store.perform call state with
      | (answer, left) => (next answer).run store left := rfl

end

namespace PostingRules

/-- Goes on with the balance of an account. -/
def balanceScript (accountId : AccountId) (next : Cents → Script) : Script :=
  if accountId.isNil then next .zero
  else .ask (.readMovements accountId) fun
    | .error fault => .done (.error (.store fault))
    | .ok movements =>
      match settle accountId movements with
      | .error fault => .done (.error fault)
      | .ok balance => next balance

def checkScript (rules : PostingRules) (line : TransactionLine) (rest : Script) : Script :=
  if rules.wrongDeposit then .done (.error (.initialDepositNotCredit rules.transactionId))
  else if rules.skipsBalance then rest
  else balanceScript line.accountId fun balance =>
    if rules.checksFunds && !isCovered balance line then
      .done (.error (.insufficientFunds line.accountId balance line.amount))
    else rest

def linesScript (rules : PostingRules) : List TransactionLine → Script
  | [] => .done (.ok ())
  | line :: rest => .ask (.writeLine rules.transactionId line) fun
    | .error (.uniqueViolation _) =>
      .done (.error (.duplicateLine rules.transactionId line.accountId))
    | .error (.database detail) => .done (.error (.store (.database detail)))
    | .ok _ => rules.checkScript line (rules.linesScript rest)

end PostingRules

def writingScript (guard : OverdraftGuard) (transaction : Transaction) (options : PostingOptions)
    (accounts : List Account) (recordedAt : Timestamp) : Script :=
  .ask (.writeHeader transaction.id transaction.timestamp recordedAt) fun
    | .error fault => .done (.error (.store fault))
    | .ok _ =>
      match transaction.lines with
      | [] => .done (.error (.validation .noLines))
      | first :: _ =>
        (PostingRules.of guard transaction options accounts first).linesScript transaction.lines

section

variable {σ υ : Type} (store : UnitStore σ υ)

private theorem run_balanceScript (accountId : AccountId) (next : Cents → Script) :
    (PostingRules.balanceScript accountId next).run store =
      (do let balance ← store.balanceOf accountId
          (next balance).run store) := by
  rw [PostingRules.balanceScript, UnitStore.balanceOf]
  cases accountId.isNil with
  | true => rfl
  | false =>
      funext state
      simp only [Bool.false_eq_true, if_false, Script.run, UnitStore.perform,
        Action.bind_apply, Action.mapError]
      rcases store.movements accountId state with ⟨fault | movements, left⟩
      · rfl
      · dsimp only
        cases settle accountId movements <;> rfl

private theorem run_checkScript (rules : PostingRules) (line : TransactionLine) (rest : Script) :
    (rules.checkScript line rest).run store =
      (do rules.checkLine store line
          rest.run store) := by
  rw [PostingRules.checkScript, PostingRules.checkLine]
  cases rules.wrongDeposit with
  | true => rfl
  | false =>
      cases rules.skipsBalance with
      | true => rfl
      | false =>
          simp only [Bool.false_eq_true, if_false, run_balanceScript, bind_assoc]
          congr 1
          funext balance
          cases rules.checksFunds && !isCovered balance line <;> rfl

private theorem run_linesScript (rules : PostingRules) (lines : List TransactionLine) :
    (rules.linesScript lines).run store = rules.writeLines store lines := by
  induction lines with
  | nil => rfl
  | cons line rest induction =>
      funext state
      rw [PostingRules.linesScript, PostingRules.writeLines, PostingRules.writeLine]
      simp only [Script.run, UnitStore.perform, Action.bind_apply, Action.mapError]
      rcases store.writeLine rules.transactionId line state with ⟨(_ | _) | _, left⟩
      · rfl
      · rfl
      · dsimp only [Action.pure_apply]
        rw [run_checkScript, induction, Action.bind_apply]

/-- With nothing between its calls, the script writes what a posting writes. -/
theorem run_writingScript (guard : OverdraftGuard) (transaction : Transaction)
    (options : PostingOptions) (accounts : List Account) (recordedAt : Timestamp) :
    (writingScript guard transaction options accounts recordedAt).run store =
      writeTransaction store guard transaction options accounts recordedAt := by
  funext state
  rw [writingScript, writeTransaction]
  simp only [Script.run, UnitStore.perform, Action.bind_apply, Action.mapError]
  rcases store.writeHeader transaction.id transaction.timestamp recordedAt state with
    ⟨fault | _, left⟩
  · rfl
  · dsimp only [Action.pure_apply]
    cases transaction.lines with
    | nil => rfl
    | cons first rest => rw [run_linesScript]

end

end DepositLedger
