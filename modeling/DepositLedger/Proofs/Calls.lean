import DepositLedger.Proofs.Alike
import DepositLedger.Proofs.Runs

/-! Calls: all that users may ask of a ledger, whichever backend keeps it, and runs of calls
on a backend. A call answers and leaves a state, whether or not it succeeds. -/

namespace DepositLedger

/-- What is asked of a ledger without changing it. -/
inductive Query where
  | accounts (ids : List AccountId)
  | accountsOfCustomer (customerId : CustomerId)
  | findAccount (accountNumber routingNumber : String) (accountType : AccountType)
  | findTransaction (id : TransactionId)
  | history (accountId : AccountId)

inductive Call where
  | change (request : Memory.Request)
  | ask (query : Query)

inductive Answer where
  | done
  | opened (account : Account)
  | reversed (reversal : Transaction)
  | accounts (accounts : List Account)
  | accountsOfCustomer (accounts : List Account)
  | accountFound (account : Option Account)
  | transactionFound (transaction : Option Transaction)
  | history (transactions : List Transaction)
deriving DecidableEq

/-- The same answers, but for the order of the accounts of a customer. -/
inductive Answer.Alike : Answer → Answer → Prop
  | same (answer : Answer) : Alike answer answer
  | reordered {accounts other : List Account} (perm : accounts.Perm other) :
      Alike (.accountsOfCustomer accounts) (.accountsOfCustomer other)

namespace Operations

variable {σ : Type} (operations : Operations σ)

def change : Memory.Request → Action σ LedgerFault Answer
  | .addAccount customerId account => do
    operations.addAccount customerId account
    pure .done
  | .openAccount customerId account amount stamp => do
    let opened ← operations.openWithDeposit customerId account amount stamp
    pure (.opened opened)
  | .post transaction options recordedAt => do
    operations.post transaction options recordedAt
    pure .done
  | .reverse id stamp => do
    let reversal ← operations.reverse id stamp
    pure (.reversed reversal)

def ask : Query → Action σ LedgerFault Answer
  | .accounts ids => do
    let accounts ← operations.accounts ids
    pure (.accounts accounts)
  | .accountsOfCustomer customerId => do
    let accounts ← operations.accountsOfCustomer customerId
    pure (.accountsOfCustomer accounts)
  | .findAccount accountNumber routingNumber accountType => do
    let account ← operations.findAccount accountNumber routingNumber accountType
    pure (.accountFound account)
  | .findTransaction id => do
    let transaction ← operations.transaction? id
    pure (.transactionFound transaction)
  | .history accountId => do
    let transactions ← operations.history accountId
    pure (.history transactions)

def answer : Call → Action σ LedgerFault Answer
  | .change request => operations.change request
  | .ask query => operations.ask query

/-- The state that a run of calls leaves. -/
def left (calls : List Call) (state : σ) : σ :=
  calls.foldl (fun state call => (operations.answer call state).2) state

theorem left_concat (calls : List Call) (call : Call) (state : σ) :
    operations.left (calls ++ [call]) state =
      (operations.answer call (operations.left calls state)).2 := by
  rw [left, List.foldl_append, List.foldl_cons, List.foldl_nil, left]

end Operations

namespace Memory

/-- The times that a request gives to a transaction. -/
def Request.times : Request → List Timestamp
  | .addAccount _ _ => []
  | .openAccount _ _ _ stamp => [stamp.timestamp, stamp.recordedAt]
  | .post transaction _ recordedAt => [transaction.timestamp, recordedAt]
  | .reverse _ stamp => [stamp.timestamp, stamp.recordedAt]

/-- How many lines a request brings. Those of a reversal are as many as have been posted. -/
def Request.lineCount : Request → Nat
  | .addAccount _ _ => 0
  | .openAccount _ _ _ _ => 1
  | .post transaction _ _ => transaction.lines.length
  | .reverse _ _ => 0

/-- The reading of the clock for the transaction that a request posts. -/
def Request.recordedAt? : Request → Option Timestamp
  | .addAccount _ _ => none
  | .openAccount _ _ _ stamp => some stamp.recordedAt
  | .post _ _ recordedAt => some recordedAt
  | .reverse _ stamp => some stamp.recordedAt

end Memory

namespace Call

open Memory

def times : Call → List Timestamp
  | .change request => request.times
  | .ask _ => []

def lineCount : Call → Nat
  | .change request => request.lineCount
  | .ask _ => 0

/-- The accounts whose balances are added up for a call. -/
def consulted (ledger : Ledger) : Call → List AccountId
  | .change (.addAccount _ _) => []
  | .change (.openAccount _ account _ _) => [account.id]
  | .change (.post transaction _ _) => transaction.touchedAccounts
  | .change (.reverse id _) =>
    match ledger.transaction? id with
    | none => []
    | some posted => posted.touchedAccounts
  | .ask (.accounts ids) => ids
  | .ask (.accountsOfCustomer customerId) =>
    (ledger.accounts.filter (·.customerId == customerId)).map (·.id)
  | .ask (.findAccount accountNumber routingNumber _) =>
    (ledger.accounts.filter fun account =>
      account.accountNumber == accountNumber && account.routingNumber == routingNumber).map (·.id)
  | .ask (.findTransaction _) => []
  | .ask (.history _) => []

/-- When the posting that a call makes is recorded, if it makes one and it is accepted. -/
def recordedAt? (guard : OverdraftGuard) (ledger : Ledger) : Call → Option Timestamp
  | .change request => (ledger.acceptedBy? guard request).bind fun _ => request.recordedAt?
  | .ask _ => none

end Call

/-- When the postings that are accepted in a run of calls are recorded, from a given ledger. -/
def recordingsFrom (guard : OverdraftGuard) : Memory.Ledger → List Call → List Timestamp
  | _, [] => []
  | ledger, call :: rest =>
    (call.recordedAt? guard ledger).toList ++
      recordingsFrom guard ((Memory.operations guard).answer call ledger).2 rest

/-- When the postings that are accepted in a run of calls are recorded, from an empty ledger. -/
def recordings (guard : OverdraftGuard) (calls : List Call) : List Timestamp :=
  recordingsFrom guard {} calls

theorem recordingsFrom_append (guard : OverdraftGuard) (ledger : Memory.Ledger)
    (calls later : List Call) :
    recordingsFrom guard ledger (calls ++ later) =
      recordingsFrom guard ledger calls ++
        recordingsFrom guard ((Memory.operations guard).left calls ledger) later := by
  induction calls generalizing ledger with
  | nil => rfl
  | cons call rest induction =>
      rw [List.cons_append, recordingsFrom, recordingsFrom, induction, List.append_assoc]
      rfl

theorem recordings_concat (guard : OverdraftGuard) (calls : List Call) (call : Call) :
    recordings guard (calls ++ [call]) =
      recordings guard calls ++
        (call.recordedAt? guard ((Memory.operations guard).left calls {})).toList := by
  rw [recordings, recordingsFrom_append, recordings]
  simp [recordingsFrom]

end DepositLedger
