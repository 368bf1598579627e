import DepositLedger.Proofs.Units

/-! Postings that nothing comes between. A posting whose steps are taken one after another
does to the ledger what the ledger's own operation does, and ends with its answer. -/

namespace DepositLedger.Memory.Workspace

/-- Steps of one posting and of nothing else. -/
abbrev Proceeds (posting : Nat) : Workspace → Workspace → Prop :=
  Relation.ReflTransGen fun work left => left = work.proceed posting

variable {work : Workspace} {posting unit : Nat} {staging : Staging}

theorem getElem?_setPosting {state : PostingState}
    (known : posting < work.postings.length) :
    (work.setPosting posting state).postings[posting]? = some state :=
  List.getElem?_set_self known

/-- A posting under way makes the calls of its script, one step each. -/
private theorem proceeds_script (script : Script)
    (opened : work.units[unit]? = some (.opened staging))
    (writing : work.postings[posting]? = some (.writing unit script)) :
    ∃ left outcome staged, work.Proceeds posting left ∧
      script.run store (work.ledger, staging) = (outcome, (left.ledger, staged)) ∧
      left.units[unit]? = some (.opened staged) ∧
      left.postings[posting]? = some (.writing unit (.done outcome)) := by
  induction script generalizing work staging with
  | done outcome => exact ⟨work, outcome, staging, .refl, rfl, opened, writing⟩
  | ask asked next induction =>
      rcases performed : store.perform asked (work.ledger, staging) with ⟨answer, ledger, staged⟩
      have unitKnown := (List.getElem?_eq_some_iff.mp opened).1
      have postingKnown := (List.getElem?_eq_some_iff.mp writing).1
      have step : work.proceed posting = ({ work with
          ledger
          units := work.units.set unit (.opened staged)
          log := work.log ++ [.call unit asked answer] } : Workspace).setPosting posting
            (.writing unit (next answer)) := by
        rw [Workspace.proceed, writing]
        simp only [Workspace.call, opened, performed]
      have stillOpened : (work.proceed posting).units[unit]? = some (.opened staged) := by
        rw [step]
        exact List.getElem?_set_self unitKnown
      have stillWriting : (work.proceed posting).postings[posting]? =
          some (.writing unit (next answer)) := by
        rw [step]
        exact getElem?_setPosting postingKnown
      rcases induction answer stillOpened stillWriting with
        ⟨left, outcome, last, proceeds, run, rest⟩
      refine ⟨left, outcome, last, .head rfl proceeds, ?_, rest⟩
      have ledgerAfter : (work.proceed posting).ledger = ledger := by
        rw [step]
        rfl
      rw [Script.run_ask, performed, ← ledgerAfter]
      exact run

/-- What is left of a unit of work once its script has run, and the posting's answer. -/
def closed : Except LedgerFault Unit × (Ledger × Staging) → Except LedgerFault Unit × Ledger
  | (.ok (), (ledger, staging)) => (store.commit staging).mapError LedgerFault.store ledger
  | (.error fault, (ledger, _)) => (.error fault, ledger)

private theorem proceeds_writing (script : Script)
    (opened : work.units[unit]? = some (.opened staging))
    (writing : work.postings[posting]? = some (.writing unit script)) :
    ∃ left, work.Proceeds posting left ∧
      left.ledger = (closed (script.run store (work.ledger, staging))).2 ∧
      left.postings[posting]? =
        some (.over (closed (script.run store (work.ledger, staging))).1) := by
  rcases proceeds_script script opened writing with
    ⟨between, outcome, staged, proceeds, run, stillOpened, written⟩
  have postingKnown := (List.getElem?_eq_some_iff.mp written).1
  refine ⟨between.proceed posting, .tail proceeds rfl, ?_⟩
  rw [run, Workspace.proceed, written]
  rcases outcome with fault | ⟨⟨⟩⟩
  · simp only [Workspace.finish, stillOpened, UnitEnding.perform]
    exact ⟨rfl, getElem?_setPosting postingKnown⟩
  · simp only [Workspace.finish, stillOpened, UnitEnding.perform, closed, Action.mapError]
    rcases store.commit staged between.ledger with ⟨fault | ⟨⟨⟩⟩, ledger⟩
    · exact ⟨rfl, getElem?_setPosting postingKnown⟩
    · exact ⟨rfl, getElem?_setPosting postingKnown⟩

private theorem proceeds_ready (script : Script)
    (ready : work.postings[posting]? = some (.ready script)) :
    ∃ left, work.Proceeds posting left ∧
      left.ledger = (closed (script.run store (work.ledger, {}))).2 ∧
      left.postings[posting]? = some (.over (closed (script.run store (work.ledger, {}))).1) := by
  have postingKnown := (List.getElem?_eq_some_iff.mp ready).1
  have step : work.proceed posting =
      work.begin.setPosting posting (.writing work.units.length script) := by
    rw [Workspace.proceed, ready]
  have opened : (work.proceed posting).units[work.units.length]? = some (.opened {}) := by
    rw [step]
    exact List.getElem?_concat_length
  have writing : (work.proceed posting).postings[posting]? =
      some (.writing work.units.length script) := by
    rw [step]
    exact getElem?_setPosting postingKnown
  have ledgerAfter : (work.proceed posting).ledger = work.ledger := by
    rw [step]
    rfl
  rcases proceeds_writing script opened writing with ⟨left, proceeds, finished⟩
  rw [ledgerAfter] at finished
  exact ⟨left, .head rfl proceeds, finished⟩

/-- With nothing between its steps, a posting is the operation. -/
theorem proceeds_post (work : Workspace) (guard : OverdraftGuard) (transaction : Transaction)
    (options : PostingOptions) (recordedAt : Timestamp) :
    ∃ left, (work.after (.post guard transaction options recordedAt)).Proceeds
        work.postings.length left ∧
      left.ledger = ((operations guard).post transaction options recordedAt work.ledger).2 ∧
      left.postings[work.postings.length]? =
        some (.over ((operations guard).post transaction options recordedAt work.ledger).1) := by
  simp only [operations, postTransaction, Action.bind_apply, Action.mapError, Action.ofExcept,
    Action.inspect, Workspace.after, prepare]
  rcases transaction.checkFor options with fault | ⟨⟨⟩⟩
  · exact ⟨_, .refl, rfl, List.getElem?_concat_length⟩
  · dsimp only
    cases work.ledger.accountsById transaction.touchedAccounts with
    | error fault => exact ⟨_, .refl, rfl, List.getElem?_concat_length⟩
    | ok accounts =>
        dsimp only
        cases firstMissing? transaction.touchedAccounts accounts with
        | some missing => exact ⟨_, .refl, rfl, List.getElem?_concat_length⟩
        | none =>
            have ready : ({ work with
                postings := work.postings ++ [.ready (writingScript guard transaction options
                  accounts recordedAt)] } : Workspace).postings[work.postings.length]? =
                some (.ready _) :=
              List.getElem?_concat_length
            rcases proceeds_ready _ ready with ⟨left, proceeds, finished⟩
            refine ⟨left, proceeds, ?_⟩
            rw [run_writingScript] at finished
            have begun : (store.begin.mapError LedgerFault.store) work.ledger =
              (.ok {}, work.ledger) := rfl
            simp only [Action.bind_apply, begun, Action.attemptWith]
            rcases written : writeTransaction store guard transaction options accounts recordedAt
              (work.ledger, {}) with ⟨fault | ⟨⟨⟩⟩, ledger, staged⟩
            · rw [written] at finished
              exact finished
            · rw [written] at finished
              exact finished

end DepositLedger.Memory.Workspace
