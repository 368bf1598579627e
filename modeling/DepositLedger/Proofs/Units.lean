import DepositLedger.Proofs.Rows
import DepositLedger.Proofs.Script
import Mathlib.Data.List.Induction
import Mathlib.Logic.Relation

/-! Units of work side by side. On one ledger any number of units are open, some of them
used by hand and some by postings under way, and each step of any of them may come
between any two steps of the others. What was asked of the units, and how it was
answered, is written down in order. -/

namespace DepositLedger.Memory

inductive UnitEnding where
  | commit
  | rollback
  | drop

inductive UnitState where
  | opened (staging : Staging)
  /-- The unit is gone, even if it could not be committed. -/
  | finished (ending : UnitEnding) (outcome : Except StoreFault Unit)

/-- Something asked of a unit of work, with the answer. -/
inductive Exchange where
  | call (unit : Nat) (call : UnitCall) (answer : Except StoreFault (List Movement))
  | finish (unit : Nat) (ending : UnitEnding) (outcome : Except StoreFault Unit)

inductive PostingState where
  /-- The accounts have been looked up and no unit of work is open. -/
  | ready (script : Script)
  | writing (unit : Nat) (script : Script)
  | over (outcome : Except LedgerFault Unit)

/-- A ledger with its units of work and postings, numbered as they were begun. -/
structure Workspace where
  ledger : Ledger := {}
  units : List UnitState := []
  postings : List PostingState := []
  log : List Exchange := []

inductive WorkEvent where
  | addAccount (customerId : CustomerId) (account : Account)
  | begin
  | call (unit : Nat) (call : UnitCall)
  | finish (unit : Nat) (ending : UnitEnding)
  /-- A posting is checked, and its accounts are looked up. -/
  | post (guard : OverdraftGuard) (transaction : Transaction) (options : PostingOptions)
    (recordedAt : Timestamp)
  /-- A posting takes the next of its steps. -/
  | proceed (posting : Nat)

/-- What is left of a posting that has been checked: to write, or to fail. -/
def prepare (guard : OverdraftGuard) (ledger : Ledger) (transaction : Transaction)
    (options : PostingOptions) (recordedAt : Timestamp) : PostingState :=
  match transaction.checkFor options with
  | .error fault => .over (.error (.validation fault))
  | .ok () =>
    match ledger.accountsById transaction.touchedAccounts with
    | .error fault => .over (.error fault)
    | .ok accounts =>
      match firstMissing? transaction.touchedAccounts accounts with
      | some missing => .over (.error (.accountNotFound missing))
      | none => .ready (writingScript guard transaction options accounts recordedAt)

def UnitEnding.perform (staging : Staging) : UnitEnding → Action Ledger StoreFault Unit
  | .commit => store.commit staging
  | .rollback => store.rollback staging
  | .drop => pure ()

namespace Workspace

def begin (work : Workspace) : Workspace :=
  match store.begin work.ledger with
  | (.ok staging, ledger) => { work with ledger, units := work.units ++ [.opened staging] }
  | (.error _, ledger) => { work with ledger }

/-- Makes a call in a unit of work, if the unit is open. -/
def call (work : Workspace) (unit : Nat) (call : UnitCall) :
    Option (Except StoreFault (List Movement) × Workspace) :=
  match work.units[unit]? with
  | some (.opened staging) =>
    match store.perform call (work.ledger, staging) with
    | (answer, (ledger, staging)) =>
      some (answer, { work with
        ledger
        units := work.units.set unit (.opened staging)
        log := work.log ++ [.call unit call answer] })
  | _ => none

/-- Ends a unit of work, if the unit is open. -/
def finish (work : Workspace) (unit : Nat) (ending : UnitEnding) :
    Option (Except StoreFault Unit × Workspace) :=
  match work.units[unit]? with
  | some (.opened staging) =>
    match ending.perform staging work.ledger with
    | (outcome, ledger) =>
      some (outcome, { work with
        ledger
        units := work.units.set unit (.finished ending outcome)
        log := work.log ++ [.finish unit ending outcome] })
  | _ => none

def setPosting (work : Workspace) (posting : Nat) (state : PostingState) : Workspace :=
  { work with postings := work.postings.set posting state }

/-- Takes the next step of a posting. A posting whose unit is gone takes no more. -/
def proceed (work : Workspace) (posting : Nat) : Workspace :=
  match work.postings[posting]? with
  | some (.ready script) => work.begin.setPosting posting (.writing work.units.length script)
  | some (.writing unit (.ask call next)) =>
    match work.call unit call with
    | some (answer, left) => left.setPosting posting (.writing unit (next answer))
    | none => work
  | some (.writing unit (.done (.ok ()))) =>
    match work.finish unit .commit with
    | some (outcome, left) => left.setPosting posting (.over (outcome.mapError LedgerFault.store))
    | none => work
  | some (.writing unit (.done (.error fault))) =>
    match work.finish unit .rollback with
    | some (_, left) => left.setPosting posting (.over (.error fault))
    | none => work
  | some (.over _) | none => work

def after (work : Workspace) : WorkEvent → Workspace
  | .addAccount customerId account =>
    match work.ledger.addAccount customerId account with
    | .ok ledger => { work with ledger }
    | .error _ => work
  | .begin => work.begin
  | .call unit call => ((work.call unit call).map Prod.snd).getD work
  | .finish unit ending => ((work.finish unit ending).map Prod.snd).getD work
  | .post guard transaction options recordedAt =>
    { work with
      postings := work.postings ++ [prepare guard work.ledger transaction options recordedAt] }
  | .proceed posting => work.proceed posting

/-- What a run of events leaves, from nothing. -/
def reached (events : List WorkEvent) : Workspace := events.foldl after {}

end Workspace

/-! ## What a step can do -/

/-- What a call in a unit of work can do: its answer, and what is staged after it. -/
inductive Called (ledger : Ledger) (staging : Staging) :
    UnitCall → Except StoreFault (List Movement) → Staging → Prop
  | header {transactionId : TransactionId} {timestamp recordedAt : Timestamp}
      (free : transactionId ∉ (ledger.headers ++ staging.headers).map (·.transactionId)) :
      Called ledger staging (.writeHeader transactionId timestamp recordedAt) (.ok [])
        { staging with headers := staging.headers ++ [⟨transactionId, timestamp⟩] }
  | headerTaken {transactionId : TransactionId} {timestamp recordedAt : Timestamp}
      (taken : transactionId ∈ (ledger.headers ++ staging.headers).map (·.transactionId)) :
      Called ledger staging (.writeHeader transactionId timestamp recordedAt)
        (.error (Memory.headerTaken transactionId)) staging
  | line {transactionId : TransactionId} {line : TransactionLine}
      (free : (transactionId, line.accountId) ∉
        (ledger.lines ++ staging.lines).map PostedLine.key) :
      Called ledger staging (.writeLine transactionId line) (.ok [])
        { staging with lines := staging.lines ++ [⟨transactionId, line⟩] }
  | lineTaken {transactionId : TransactionId} {line : TransactionLine}
      (taken : (transactionId, line.accountId) ∈
        (ledger.lines ++ staging.lines).map PostedLine.key) :
      Called ledger staging (.writeLine transactionId line)
        (.error (Memory.lineTaken transactionId line.accountId)) staging
  | movements {accountId : AccountId} :
      Called ledger staging (.readMovements accountId)
        (.ok (movementsOf ledger.lines accountId ++ movementsOf staging.lines accountId)) staging

/-- What the end of a unit of work can do: its outcome, and the ledger after it. -/
inductive Finished (ledger : Ledger) (staging : Staging) :
    UnitEnding → Except StoreFault Unit → Ledger → Prop
  | committed (free : ¬ staging.Clashes ledger) :
      Finished ledger staging .commit (.ok ())
        { ledger with
          headers := ledger.headers ++ staging.headers
          lines := ledger.lines ++ staging.lines }
  | refused {fault : StoreFault} (taken : staging.Clashes ledger) :
      Finished ledger staging .commit (.error fault) ledger
  | rolledBack : Finished ledger staging .rollback (.ok ()) ledger
  | dropped : Finished ledger staging .drop (.ok ()) ledger

private theorem exists_called (ledger : Ledger) (staging : Staging) (call : UnitCall) :
    ∃ answer staged, store.perform call (ledger, staging) = (answer, (ledger, staged)) ∧
      Called ledger staging call answer staged := by
  cases call with
  | writeHeader transactionId timestamp recordedAt =>
      have taken_iff : (hasHeader staging.headers transactionId ||
          hasHeader ledger.headers transactionId) = true ↔
            transactionId ∈ (ledger.headers ++ staging.headers).map (·.transactionId) := by
        rw [Bool.or_eq_true, hasHeader_iff, hasHeader_iff, List.map_append, List.mem_append,
          or_comm]
      simp only [UnitStore.perform, Action.bind_apply, Action.pure_apply]
      simp only [store, Staging.stageHeader]
      split_ifs with taken
      · exact ⟨_, _, rfl, .headerTaken (taken_iff.mp taken)⟩
      · exact ⟨_, _, rfl, .header (taken ∘ taken_iff.mpr)⟩
  | writeLine transactionId line =>
      have taken_iff : (hasLine staging.lines transactionId line.accountId ||
          hasLine ledger.lines transactionId line.accountId) = true ↔
            (transactionId, line.accountId) ∈
              (ledger.lines ++ staging.lines).map PostedLine.key := by
        rw [Bool.or_eq_true, hasLine_iff, hasLine_iff, List.map_append, List.mem_append, or_comm]
      simp only [UnitStore.perform, Action.bind_apply, Action.pure_apply]
      simp only [store, Staging.stageLine]
      split_ifs with taken
      · exact ⟨_, _, rfl, .lineTaken (taken_iff.mp taken)⟩
      · exact ⟨_, _, rfl, .line (taken ∘ taken_iff.mpr)⟩
  | readMovements accountId => exact ⟨_, _, rfl, .movements⟩

private theorem exists_finished (ledger : Ledger) (staging : Staging) (ending : UnitEnding) :
    ∃ outcome left, ending.perform staging ledger = (outcome, left) ∧
      Finished ledger staging ending outcome left := by
  cases ending with
  | commit =>
      simp only [UnitEnding.perform, store, Action.alter]
      rcases ledger.commit_cases staging with ⟨free, committed⟩ | ⟨taken, fault, refused⟩
      · rw [committed]
        exact ⟨_, _, rfl, .committed free⟩
      · rw [refused]
        exact ⟨_, _, rfl, .refused taken⟩
  | rollback => exact ⟨_, _, rfl, .rolledBack⟩
  | drop => exact ⟨_, _, rfl, .dropped⟩

namespace Workspace

variable {work left : Workspace} {unit : Nat}

theorem of_call_eq_some {call : UnitCall} {answer : Except StoreFault (List Movement)}
    (called : work.call unit call = some (answer, left)) :
    ∃ staging staged, work.units[unit]? = some (.opened staging) ∧
      Called work.ledger staging call answer staged ∧
      left = { work with
        units := work.units.set unit (.opened staged)
        log := work.log ++ [.call unit call answer] } := by
  rw [Workspace.call] at called
  split at called
  · rename_i staging opened
    rcases exists_called work.ledger staging call with ⟨answer, staged, performed, done⟩
    rw [performed] at called
    cases called
    exact ⟨staging, staged, opened, done, rfl⟩
  · cases called

theorem of_finish_eq_some {ending : UnitEnding} {outcome : Except StoreFault Unit}
    (finished : work.finish unit ending = some (outcome, left)) :
    ∃ staging ledger, work.units[unit]? = some (.opened staging) ∧
      Finished work.ledger staging ending outcome ledger ∧
      left = { work with
        ledger
        units := work.units.set unit (.finished ending outcome)
        log := work.log ++ [.finish unit ending outcome] } := by
  rw [Workspace.finish] at finished
  split at finished
  · rename_i staging opened
    rcases exists_finished work.ledger staging ending with ⟨outcome, ledger, performed, done⟩
    rw [performed] at finished
    cases finished
    exact ⟨staging, ledger, opened, done, rfl⟩
  · cases finished

/-- What any event is made of. -/
inductive Step (work : Workspace) : Workspace → Prop
  | accounts (accounts : List Account) :
      Step work { work with ledger := { work.ledger with accounts } }
  | postings (postings : List PostingState) : Step work { work with postings }
  | begin : Step work work.begin
  | call {unit : Nat} {call : UnitCall} {answer : Except StoreFault (List Movement)}
      {left : Workspace} (called : work.call unit call = some (answer, left)) : Step work left
  | finish {unit : Nat} {ending : UnitEnding} {outcome : Except StoreFault Unit}
      {left : Workspace} (finished : work.finish unit ending = some (outcome, left)) :
      Step work left

abbrev Steps : Workspace → Workspace → Prop := Relation.ReflTransGen Step

private theorem Step.setPosting (step : work.Step left) (posting : Nat) (state : PostingState) :
    work.Steps (left.setPosting posting state) :=
  .tail (.single step) (.postings _)

private theorem steps_proceed (work : Workspace) (posting : Nat) :
    work.Steps (work.proceed posting) := by
  rw [Workspace.proceed]
  split
  · exact Step.begin.setPosting _ _
  · split
    · rename_i called
      exact (Step.call called).setPosting _ _
    · exact .refl
  · split
    · rename_i finished
      exact (Step.finish finished).setPosting _ _
    · exact .refl
  · split
    · rename_i finished
      exact (Step.finish finished).setPosting _ _
    · exact .refl
  · exact .refl
  · exact .refl

private theorem steps_after (work : Workspace) (event : WorkEvent) :
    work.Steps (work.after event) := by
  cases event with
  | addAccount customerId account =>
      rw [Workspace.after]
      split
      · rename_i added
        rcases Ledger.addAccount_ok_iff.mp added with ⟨_, _, rfl⟩
        exact .single (.accounts _)
      · exact .refl
  | begin => exact .single .begin
  | call unit asked =>
      rw [Workspace.after]
      cases called : work.call unit asked with
      | none => exact .refl
      | some result => exact .single (.call called)
  | finish unit ending =>
      rw [Workspace.after]
      cases finished : work.finish unit ending with
      | none => exact .refl
      | some result => exact .single (.finish finished)
  | post guard transaction options recordedAt => exact .single (.postings _)
  | proceed posting => exact steps_proceed work posting

private theorem reached_concat (events : List WorkEvent) (event : WorkEvent) :
    reached (events ++ [event]) = (reached events).after event := by
  rw [reached, List.foldl_append, List.foldl_cons, List.foldl_nil, reached]

theorem steps_reached (events later : List WorkEvent) :
    (reached events).Steps (reached (events ++ later)) := by
  induction later using List.reverseRecOn with
  | nil => rw [List.append_nil]
  | append_singleton later event induction =>
      rw [← List.append_assoc, reached_concat]
      exact induction.trans (steps_after _ event)

end Workspace

end DepositLedger.Memory
