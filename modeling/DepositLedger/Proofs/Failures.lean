import DepositLedger.Proofs.Runs
import DepositLedger.Proofs.Undisturbed

/-! Operations that fail. Whatever goes wrong with a posting, a reversal or a new account, and
whatever comes between their steps, what has been committed stays as it is, and so does what
other units of work have staged. This is so on any ledger, however it came about. -/

namespace DepositLedger.Memory

/-- What is left of a reversal that has been asked for: its transaction is looked up, and the
one that undoes it is checked. -/
def prepareReversal (guard : OverdraftGuard) (ledger : Ledger) (id : TransactionId)
    (stamp : Stamp) : PostingState :=
  match ledger.transaction? id with
  | none => .over (.error (.transactionNotFound id))
  | some posted =>
    prepare guard ledger (posted.reversal stamp.id stamp.timestamp) {} stamp.recordedAt

/-- What has been prepared has no unit of work yet. -/
private theorem prepare_ne_writing (guard : OverdraftGuard) (ledger : Ledger)
    (transaction : Transaction)
    (options : PostingOptions) (recordedAt : Timestamp) (unit : Nat) (script : Script) :
    prepare guard ledger transaction options recordedAt ≠ .writing unit script := by
  unfold prepare
  split
  · exact (nomatch ·)
  · split
    · exact (nomatch ·)
    · split <;> exact (nomatch ·)

namespace Workspace

variable {work current left : Workspace} {posting : Nat}

def start (work : Workspace) (state : PostingState) : Workspace :=
  { work with postings := work.postings ++ [state] }

/-- What a run of events makes of a workspace. -/
def run (work : Workspace) (events : List WorkEvent) : Workspace := events.foldl after work

/-- The posting writes in this unit. -/
def Owns (work : Workspace) (posting unit : Nat) : Prop :=
  ∃ script, work.postings[posting]? = some (.writing unit script)

/-- All that is committed, and staged in units that the posting does not own, is left. -/
structure Spares (work left : Workspace) (posting : Nat) : Prop where
  ledger : left.ledger = work.ledger
  units : ∀ (unit : Nat) (state : UnitState), work.units[unit]? = some state →
    ¬ work.Owns posting unit → left.units[unit]? = some state

/-- What a step of a posting can do that does not complete it. -/
inductive Uncommitted (work : Workspace) (posting : Nat) : Workspace → Prop
  | idle : Uncommitted work posting work
  | begun {script : Script} (ready : work.postings[posting]? = some (.ready script)) :
      Uncommitted work posting
        (work.begin.setPosting posting (.writing work.units.length script))
  | used {unit : Nat} {script : Script}
      (writing : work.postings[posting]? = some (.writing unit script)) (state : UnitState)
      (log : List Exchange) (next : PostingState)
      (own : ∀ (other : Nat) (script : Script), next = .writing other script → other = unit) :
      Uncommitted work posting
        (({ work with units := work.units.set unit state, log } : Workspace).setPosting posting
          next)

private theorem uncommitted_call {unit : Nat} {script : Script} {asked : UnitCall}
    {answer : Except StoreFault (List Movement)} (next : Script)
    (writing : work.postings[posting]? = some (.writing unit script))
    (called : work.call unit asked = some (answer, left)) :
    work.Uncommitted posting (left.setPosting posting (.writing unit next)) := by
  rcases of_call_eq_some called with ⟨_, _, _, _, rfl⟩
  refine .used writing _ _ _ fun other script written => ?_
  cases written
  rfl

private theorem uncommitted_finish {unit : Nat} {script : Script} {ending : UnitEnding}
    {outcome : Except StoreFault Unit} (answer : Except LedgerFault Unit)
    (writing : work.postings[posting]? = some (.writing unit script))
    (finished : work.finish unit ending = some (outcome, left))
    (unpublished : ending = .commit → outcome ≠ .ok ()) :
    work.Uncommitted posting (left.setPosting posting (.over answer)) := by
  rcases of_finish_eq_some finished with ⟨staging, ledger, _, done, rfl⟩
  have same : ledger = work.ledger := by
    cases done with
    | committed => exact (unpublished rfl rfl).elim
    | refused | rolledBack | dropped => rfl
  rw [same]
  exact .used writing _ _ _ fun _ _ => (nomatch ·)

/-- Only the commit at its end changes what is shared, and then the posting has succeeded. -/
private theorem uncommitted_proceed
    (unposted : (work.proceed posting).postings[posting]? ≠ some (.over (.ok ()))) :
    work.Uncommitted posting (work.proceed posting) := by
  rw [Workspace.proceed] at unposted ⊢
  cases found : work.postings[posting]? with
  | none => exact .idle
  | some state =>
      have known := (List.getElem?_eq_some_iff.mp found).1
      rcases state with script | ⟨unit, script⟩ | outcome
      · exact .begun found
      · rw [found] at unposted
        cases script with
        | ask asked next =>
            dsimp only
            cases called : work.call unit asked with
            | none => exact .idle
            | some result => exact uncommitted_call _ found called
        | done outcome =>
            rcases outcome with fault | ⟨⟨⟩⟩
            · dsimp only
              cases finished : work.finish unit .rollback with
              | none => exact .idle
              | some result =>
                  apply uncommitted_finish _ found finished
                  intro committed
                  cases committed
            · dsimp only at unposted ⊢
              cases finished : work.finish unit .commit with
              | none => exact .idle
              | some result =>
                  rcases result with ⟨outcome, after⟩
                  refine uncommitted_finish _ found finished fun _ committed => ?_
                  rw [finished, committed] at unposted
                  rcases of_finish_eq_some finished with ⟨_, _, _, _, rfl⟩
                  exact unposted (getElem?_setPosting known)
      · exact .idle

private theorem Uncommitted.spares (step : work.Uncommitted posting left) :
    work.Spares left posting := by
  cases step with
  | idle => exact ⟨rfl, fun _ _ found _ => found⟩
  | begun ready =>
      refine ⟨rfl, fun unit state found _ => ?_⟩
      have bound := (List.getElem?_eq_some_iff.mp found).1
      exact (List.getElem?_append_left bound).trans found
  | @used unit script writing =>
      refine ⟨rfl, fun other state found foreign => ?_⟩
      have different : unit ≠ other := fun same => foreign ⟨script, same ▸ writing⟩
      exact (List.getElem?_set_ne different).trans found

/-! ## Postings that are over -/

private theorem getElem?_postings_proceed_of_ne {other : Nat} (different : other ≠ posting) :
    (work.proceed other).postings[posting]? = work.postings[posting]? := by
  rw [Workspace.proceed]
  split
  · exact List.getElem?_set_ne different
  · split
    · rename_i called
      rcases of_call_eq_some called with ⟨_, _, _, _, rfl⟩
      exact List.getElem?_set_ne different
    · rfl
  · split
    · rename_i finished
      rcases of_finish_eq_some finished with ⟨_, _, _, _, rfl⟩
      exact List.getElem?_set_ne different
    · rfl
  · split
    · rename_i finished
      rcases of_finish_eq_some finished with ⟨_, _, _, _, rfl⟩
      exact List.getElem?_set_ne different
    · rfl
  · rfl
  · rfl

private theorem proceed_of_over {outcome : Except LedgerFault Unit}
    (ended : work.postings[posting]? = some (.over outcome)) : work.proceed posting = work := by
  rw [Workspace.proceed, ended]

/-- A posting that is over stays so. -/
private theorem over_after {outcome : Except LedgerFault Unit}
    (ended : work.postings[posting]? = some (.over outcome)) (event : WorkEvent) :
    (work.after event).postings[posting]? = some (.over outcome) := by
  cases event with
  | addAccount customerId account =>
      rw [Workspace.after]
      split <;> exact ended
  | begin => exact ended
  | call unit asked =>
      rw [Workspace.after]
      cases called : work.call unit asked with
      | none => exact ended
      | some result =>
          rcases of_call_eq_some called with ⟨_, _, _, _, same⟩
          rw [Option.map_some, Option.getD_some, same]
          exact ended
  | finish unit ending =>
      rw [Workspace.after]
      cases finished : work.finish unit ending with
      | none => exact ended
      | some result =>
          rcases of_finish_eq_some finished with ⟨_, _, _, _, same⟩
          rw [Option.map_some, Option.getD_some, same]
          exact ended
  | post guard transaction options recordedAt =>
      have known := (List.getElem?_eq_some_iff.mp ended).1
      exact (List.getElem?_append_left known).trans ended
  | proceed other =>
      rw [Workspace.after]
      by_cases same : other = posting
      · rw [same, proceed_of_over ended]
        exact ended
      · rw [getElem?_postings_proceed_of_ne same]
        exact ended

private theorem over_run {outcome : Except LedgerFault Unit}
    (ended : work.postings[posting]? = some (.over outcome)) (events : List WorkEvent) :
    (work.run events).postings[posting]? = some (.over outcome) := by
  induction events generalizing work with
  | nil => exact ended
  | cons event rest induction => exact induction (over_after ended event)

/-- In a run in which a posting ends with a fault, each of its steps has spared all else. -/
private theorem spares_of_over_error {events earlier later : List WorkEvent} {fault : LedgerFault}
    (failed : (work.run events).postings[posting]? = some (.over (.error fault)))
    (part : events = earlier ++ .proceed posting :: later) :
    (work.run earlier).Spares ((work.run earlier).proceed posting) posting := by
  apply Uncommitted.spares
  apply uncommitted_proceed
  intro posted
  have whole : work.run events = ((work.run earlier).proceed posting).run later := by
    rw [part, run, List.foldl_append, List.foldl_cons]
    rfl
  rw [whole, over_run posted later] at failed
  cases failed

/-! ## Postings with nothing between their steps -/

/-- What is committed and staged is as it was in `work`, and the posting writes in a unit
that has been begun since. -/
structure Aside (work current : Workspace) (posting : Nat) : Prop where
  ledger : current.ledger = work.ledger
  units : work.units <+: current.units
  own : ∀ unit, current.Owns posting unit → work.units.length ≤ unit

private theorem Aside.step (aside : work.Aside current posting)
    (step : current.Uncommitted posting left) : work.Aside left posting := by
  cases step with
  | idle => exact aside
  | @begun script ready =>
      have known := (List.getElem?_eq_some_iff.mp ready).1
      refine ⟨aside.ledger, aside.units.trans (List.prefix_append _ _), ?_⟩
      intro unit owns
      rcases owns with ⟨other, writing⟩
      have same := (List.getElem?_set_self known).symm.trans writing
      cases same
      exact aside.units.length_le
  | @used unit script writing state log next own =>
      have known := (List.getElem?_eq_some_iff.mp writing).1
      have since : work.units.length ≤ unit := aside.own unit ⟨script, writing⟩
      refine ⟨aside.ledger, ?_, ?_⟩
      · rcases aside.units with ⟨rest, units⟩
        change work.units <+: current.units.set unit state
        rw [← units, List.set_append_right _ _ since]
        exact List.prefix_append _ _
      · intro other owns
        rcases owns with ⟨otherScript, otherWriting⟩
        have same := (List.getElem?_set_self known).symm.trans otherWriting
        rw [own other otherScript (Option.some.inj same)]
        exact since

private theorem Aside.proceeds (aside : work.Aside current posting) {fault : LedgerFault}
    (proceeds : current.Proceeds posting left)
    (failed : left.postings[posting]? = some (.over (.error fault))) :
    work.Aside left posting := by
  have unposted : left.postings[posting]? ≠ some (.over (.ok ())) := by
    rw [failed]
    exact (nomatch ·)
  clear failed
  induction proceeds with
  | refl => exact aside
  | @tail between last _ next induction =>
      have before : between.postings[posting]? ≠ some (.over (.ok ())) := by
        intro posted
        rw [next, proceed_of_over posted] at unposted
        exact unposted posted
      have earlier := induction before
      rw [next] at unposted ⊢
      exact earlier.step (uncommitted_proceed unposted)

private theorem Aside.start {state : PostingState}
    (unwritten : ∀ unit script, state ≠ .writing unit script) :
    work.Aside (work.start state) work.postings.length := by
  refine ⟨rfl, List.prefix_rfl, ?_⟩
  intro unit owns
  rcases owns with ⟨script, writing⟩
  have last : (work.start state).postings[work.postings.length]? = some state :=
    List.getElem?_concat_length
  rw [last, Option.some.injEq] at writing
  exact (unwritten unit script writing).elim

/-- A posting that starts in this state, with nothing between its steps, ends with the fault,
and leaves what was committed and staged before. -/
def FailsAlone (work : Workspace) (state : PostingState) (fault : LedgerFault) : Prop :=
  ∃ left, (work.start state).Proceeds work.postings.length left ∧
    left.postings[work.postings.length]? = some (.over (.error fault)) ∧
    left.ledger = work.ledger ∧ work.units <+: left.units

variable {guard : OverdraftGuard} {fault : LedgerFault}

private theorem failsAlone_post {transaction : Transaction} {options : PostingOptions}
    {recordedAt : Timestamp}
    (failed : ((operations guard).post transaction options recordedAt work.ledger).1 =
      .error fault) :
    work.FailsAlone (prepare guard work.ledger transaction options recordedAt) fault := by
  rcases proceeds_post work guard transaction options recordedAt with
    ⟨left, proceeds, _, ended⟩
  rw [failed] at ended
  have start : work.Aside (work.start _) work.postings.length :=
    .start (prepare_ne_writing guard work.ledger transaction options recordedAt)
  have aside := start.proceeds proceeds ended
  exact ⟨left, proceeds, ended, aside.ledger, aside.units⟩

private theorem failsAlone_reverse {id : TransactionId} {stamp : Stamp}
    (failed : ((operations guard).reverse id stamp work.ledger).1 = .error fault) :
    work.FailsAlone (prepareReversal guard work.ledger id stamp) fault := by
  have read : (operations guard).transaction? id work.ledger =
      (.ok (work.ledger.transaction? id), work.ledger) := rfl
  rw [prepareReversal]
  cases found : work.ledger.transaction? id with
  | none =>
      rw [found] at read
      rw [Operations.reverse_of_none read] at failed
      cases failed
      exact ⟨_, .refl, List.getElem?_concat_length, rfl, List.prefix_rfl⟩
  | some posted =>
      rw [found] at read
      rw [Operations.reverse_of_some read] at failed
      apply failsAlone_post
      dsimp only at failed
      rcases outcome : ((operations guard).post (posted.reversal stamp.id stamp.timestamp) {}
        stamp.recordedAt work.ledger).1 with other | ⟨⟨⟩⟩
      · rw [outcome] at failed
        cases failed
        rfl
      · rw [outcome] at failed
        cases failed

end Workspace

private theorem Ledger.post_snd_of_error {guard : OverdraftGuard} {ledger : Ledger}
    {transaction : Transaction} {options : PostingOptions} {recordedAt : Timestamp}
    {fault : LedgerFault}
    (failed : ((operations guard).post transaction options recordedAt ledger).1 = .error fault) :
    ((operations guard).post transaction options recordedAt ledger).2 = ledger := by
  rw [Ledger.post_apply] at failed ⊢
  dsimp only at failed ⊢
  rw [failed]

/-- Whatever is committed, and whatever units of work are open beside it: adding an account,
posting and reversing change nothing if they fail. Where steps of others come between those
of a posting that fails in the end, be it because of them, none of its steps has changed what
is committed or what others have staged. -/
theorem failure_changes_nothing (guard : OverdraftGuard) (work : Workspace) :
    (∀ customerId account fault,
      let outcome := (operations guard).addAccount customerId account work.ledger
      outcome.1 = .error fault →
        outcome.2 = work.ledger ∧ work.after (.addAccount customerId account) = work) ∧
    (∀ transaction options recordedAt fault,
      let outcome := (operations guard).post transaction options recordedAt work.ledger
      outcome.1 = .error fault →
        outcome.2 = work.ledger ∧
          work.FailsAlone (prepare guard work.ledger transaction options recordedAt) fault) ∧
    (∀ id stamp fault,
      let outcome := (operations guard).reverse id stamp work.ledger
      outcome.1 = .error fault →
        outcome.2 = work.ledger ∧
          work.FailsAlone (prepareReversal guard work.ledger id stamp) fault) ∧
    ∀ posting events fault,
      (work.run events).postings[posting]? = some (.over (.error fault)) →
        ∀ earlier later, events = earlier ++ .proceed posting :: later →
          (work.run earlier).Spares ((work.run earlier).proceed posting) posting := by
  refine ⟨?_, ?_, ?_, ?_⟩
  · intro customerId account fault outcome failed
    have applied : outcome = _ := addAccount_apply work.ledger customerId account
    rw [applied] at failed ⊢
    rw [Workspace.after]
    cases stored : work.ledger.addAccount customerId account with
    | error other => exact ⟨rfl, rfl⟩
    | ok added =>
        rw [stored] at failed
        cases failed
  · intro transaction options recordedAt fault outcome failed
    exact ⟨Ledger.post_snd_of_error failed, Workspace.failsAlone_post failed⟩
  · intro id stamp fault outcome failed
    refine ⟨?_, Workspace.failsAlone_reverse failed⟩
    have applied : outcome = _ := reverse_apply work.ledger id stamp
    rw [applied] at failed ⊢
    cases found : work.ledger.transaction? id with
    | none => rfl
    | some posted =>
        rw [found] at failed
        rcases refused : work.ledger.verdict guard (posted.reversal stamp.id stamp.timestamp) {}
          with other | ⟨⟨⟩⟩
        · simp only [refused]
        · simp only [refused] at failed
          cases failed
  · intro posting events fault failed earlier later part
    exact Workspace.spares_of_over_error failed part

end DepositLedger.Memory
