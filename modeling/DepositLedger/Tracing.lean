import DepositLedger.Store

/-! A store that writes down every call before it passes it on to another store,
and that can be told to fail a call instead of passing it on. -/

namespace DepositLedger

inductive StoreCall where
  | begin
  | writeHeader (transactionId : TransactionId) (timestamp : Timestamp)
  | writeLine (transactionId : TransactionId) (line : TransactionLine)
  | readMovements (accountId : AccountId)
  | commit
  | rollback
deriving DecidableEq

inductive CallKind where
  | begin
  | writeHeader
  | writeLine
  | readMovements
  | commit
  | rollback
deriving DecidableEq

def StoreCall.kind : StoreCall → CallKind
  | begin => .begin
  | writeHeader _ _ => .writeHeader
  | writeLine _ _ => .writeLine
  | readMovements _ => .readMovements
  | commit => .commit
  | rollback => .rollback

structure PlannedFault where
  kind : CallKind
  /-- How many calls of this kind go before the one that fails. -/
  earlier : Nat
  fault : StoreFault
deriving DecidableEq

/-- The fault planned for a call that is made after others. -/
def plannedFault? (planned : List PlannedFault) (calls : List StoreCall) (call : StoreCall) :
    Option StoreFault :=
  (planned.find? fun plan =>
    plan.kind == call.kind && plan.earlier == calls.countP (·.kind == call.kind)).map (·.fault)

section

variable {σ υ α : Type}

/-- Writes a call down, and then fails it as planned or takes the step. -/
def traced (planned : List PlannedFault) (call : StoreCall) (step : Action σ StoreFault α) :
    Action (σ × List StoreCall) StoreFault α :=
  fun (state, calls) =>
    match plannedFault? planned calls call with
    | some fault => (.error fault, (state, calls ++ [call]))
    | none =>
      match step state with
      | (outcome, state) => (outcome, (state, calls ++ [call]))

def tracedInUnit (planned : List PlannedFault) (call : StoreCall)
    (step : Action (σ × υ) StoreFault α) :
    Action ((σ × List StoreCall) × υ) StoreFault α :=
  fun ((state, calls), unit) =>
    match traced planned call step ((state, unit), calls) with
    | (outcome, ((state, unit), calls)) => (outcome, ((state, calls), unit))

/-- The store with its calls written down and the planned ones failed. -/
def UnitStore.traced (store : UnitStore σ υ) (planned : List PlannedFault) :
    UnitStore (σ × List StoreCall) υ where
  begin := DepositLedger.traced planned .begin store.begin
  writeHeader transactionId timestamp recordedAt :=
    tracedInUnit planned (.writeHeader transactionId timestamp)
      (store.writeHeader transactionId timestamp recordedAt)
  writeLine transactionId line :=
    tracedInUnit planned (.writeLine transactionId line) (store.writeLine transactionId line)
  movements accountId :=
    tracedInUnit planned (.readMovements accountId) (store.movements accountId)
  commit unit := DepositLedger.traced planned .commit (store.commit unit)
  rollback unit := DepositLedger.traced planned .rollback (store.rollback unit)

end

end DepositLedger
