import DepositLedger.Proofs.Exchanges

/-! Isolation. Whatever order the steps of units of work and postings come in, the ledger
holds the rows of the committed units and no others, no row takes the place of another,
and a unit sees nothing that others have staged. -/

namespace DepositLedger.Memory

/-- What is staged in an open unit is what the log tells, each identifier and key once. -/
structure Staging.Follows (staging : Staging) (log : List Exchange) (unit : Nat) : Prop where
  headers : staging.headers = stagedHeaders log unit
  lines : staging.lines = stagedLines log unit
  headerIds : (staging.headers.map (·.transactionId)).Nodup
  lineKeys : (staging.lines.map PostedLine.key).Nodup

structure Workspace.Isolated (work : Workspace) : Prop where
  headers : work.ledger.headers = committedHeaders work.log
  lines : work.ledger.lines = committedLines work.log
  headerIds : (work.ledger.headers.map (·.transactionId)).Nodup
  lineKeys : (work.ledger.lines.map PostedLine.key).Nodup
  opened : ∀ (unit : Nat) (staging : Staging), work.units[unit]? = some (.opened staging) →
    staging.Follows work.log unit
  committed : ∀ unit, unit ∈ committedUnits work.log ↔
    work.units[unit]? = some (.finished .commit (.ok ()))
  once : (committedUnits work.log).Nodup
  begun : ∀ exchange ∈ work.log, exchange.unit < work.units.length
  answered : Answered work.log

/-- All that has been committed is still there, in its place. -/
structure Ledger.Extends (later earlier : Ledger) : Prop where
  headers : earlier.headers <+: later.headers
  lines : earlier.lines <+: later.lines

variable {ledger : Ledger} {staging staged : Staging} {log : List Exchange} {unit : Nat}
  {asked : UnitCall} {answer : Except StoreFault (List Movement)}

namespace Staging.Follows

private theorem concat_of_ne (follows : staging.Follows log unit) {exchange : Exchange}
    (different : exchange.unit ≠ unit) : staging.Follows (log ++ [exchange]) unit where
  headers := by
    rw [stagedHeaders, stagedRows_concat_of_ne different]
    exact follows.headers
  lines := by
    rw [stagedLines, stagedRows_concat_of_ne different]
    exact follows.lines
  headerIds := follows.headerIds
  lineKeys := follows.lineKeys

private theorem called (follows : staging.Follows log unit)
    (called : Called ledger staging asked answer staged) :
    staged.Follows (log ++ [.call unit asked answer]) unit := by
  have headers := follows.headers
  have lines := follows.lines
  have headerIds := follows.headerIds
  have lineKeys := follows.lineKeys
  cases called with
  | header free =>
      rw [List.map_append, List.mem_append, not_or] at free
      refine ⟨?_, ?_, ?_, lineKeys⟩
      · rw [stagedHeaders, stagedRows_concat, headers]
        simp [Exchange.staged?, UnitCall.header?]
      · rw [stagedLines, stagedRows_concat, lines]
        simp [Exchange.staged?, UnitCall.line?]
      · exact nodup_keys_concat headerIds fun header member same =>
          free.2 (List.mem_map.mpr ⟨header, member, same⟩)
  | line free =>
      rw [List.map_append, List.mem_append, not_or] at free
      refine ⟨?_, ?_, headerIds, ?_⟩
      · rw [stagedHeaders, stagedRows_concat, headers]
        simp [Exchange.staged?, UnitCall.header?]
      · rw [stagedLines, stagedRows_concat, lines]
        simp [Exchange.staged?, UnitCall.line?]
      · exact nodup_keys_concat lineKeys fun posted member same =>
          free.2 (List.mem_map.mpr ⟨posted, member, same⟩)
  | headerTaken taken | lineTaken taken | movements =>
      refine ⟨?_, ?_, headerIds, lineKeys⟩
      · rw [stagedHeaders, stagedRows_concat, headers]
        simp [Exchange.staged?, UnitCall.header?]
      · rw [stagedLines, stagedRows_concat, lines]
        simp [Exchange.staged?, UnitCall.line?]

end Staging.Follows

namespace Finished

variable {left : Ledger} {ending : UnitEnding} {outcome : Except StoreFault Unit}

private theorem headers (finished : Finished ledger staging ending outcome left)
    (follows : staging.Follows log unit) :
    left.headers = ledger.headers ++
      (Exchange.finish unit ending outcome).committed?.toList.flatMap (stagedHeaders log) := by
  cases finished with
  | committed => simp [Exchange.committed?, follows.headers]
  | refused | rolledBack | dropped => simp [Exchange.committed?]

private theorem lines (finished : Finished ledger staging ending outcome left)
    (follows : staging.Follows log unit) :
    left.lines = ledger.lines ++
      (Exchange.finish unit ending outcome).committed?.toList.flatMap (stagedLines log) := by
  cases finished with
  | committed => simp [Exchange.committed?, follows.lines]
  | refused | rolledBack | dropped => simp [Exchange.committed?]

private theorem headerIds (finished : Finished ledger staging ending outcome left)
    (distinct : (ledger.headers.map (·.transactionId)).Nodup)
    (stagedDistinct : (staging.headers.map (·.transactionId)).Nodup) :
    (left.headers.map (·.transactionId)).Nodup := by
  cases finished with
  | committed free =>
      exact nodup_keys_append distinct stagedDistinct fun header member new newMember same =>
        free (Or.inl ⟨new, newMember, List.mem_map.mpr ⟨header, member, same⟩⟩)
  | refused | rolledBack | dropped => exact distinct

private theorem lineKeys (finished : Finished ledger staging ending outcome left)
    (distinct : (ledger.lines.map PostedLine.key).Nodup)
    (stagedDistinct : (staging.lines.map PostedLine.key).Nodup) :
    (left.lines.map PostedLine.key).Nodup := by
  cases finished with
  | committed free =>
      exact nodup_keys_append distinct stagedDistinct fun posted member new newMember same =>
        free (Or.inr ⟨new, newMember, List.mem_map.mpr ⟨posted, member, same⟩⟩)
  | refused | rolledBack | dropped => exact distinct

end Finished

namespace Workspace

variable {work left : Workspace}

private theorem Isolated.uncommitted (isolated : work.Isolated)
    (opened : work.units[unit]? = some (.opened staging)) : unit ∉ committedUnits work.log := by
  rw [isolated.committed, opened]
  exact (nomatch ·)

private theorem Isolated.fits_call (isolated : work.Isolated)
    (follows : staging.Follows work.log unit)
    (called : Called work.ledger staging asked answer staged) :
    (Exchange.call unit asked answer).Fits work.log := by
  cases called with
  | header free =>
      rw [isolated.headers, follows.headers] at free
      exact ⟨fun ⟨_, refused⟩ => (nomatch refused), fun taken => (free taken).elim⟩
  | headerTaken taken =>
      rw [isolated.headers, follows.headers] at taken
      exact ⟨fun _ => taken, fun _ => ⟨_, rfl⟩⟩
  | line free =>
      rw [isolated.lines, follows.lines] at free
      exact ⟨fun ⟨_, refused⟩ => (nomatch refused), fun taken => (free taken).elim⟩
  | lineTaken taken =>
      rw [isolated.lines, follows.lines] at taken
      exact ⟨fun _ => taken, fun _ => ⟨_, rfl⟩⟩
  | movements =>
      rw [isolated.lines, follows.lines]
      rfl

private theorem Isolated.call (isolated : work.Isolated)
    (called : work.call unit asked = some (answer, left)) : left.Isolated := by
  rcases of_call_eq_some called with ⟨staging, staged, opened, done, rfl⟩
  have uncommitted := isolated.uncommitted opened
  have follows := isolated.opened unit staging opened
  have bound : unit < work.units.length := (List.getElem?_eq_some_iff.mp opened).1
  exact {
    -- The unit is open, so none of the committed rows are its own.
    headers := by
      rw [committedHeaders, committedRows_concat_call uncommitted]
      exact isolated.headers
    lines := by
      rw [committedLines, committedRows_concat_call uncommitted]
      exact isolated.lines
    headerIds := isolated.headerIds
    lineKeys := isolated.lineKeys
    opened := fun other otherStaging otherOpened => by
      by_cases same : unit = other
      · subst same
        rw [List.getElem?_set_self bound] at otherOpened
        cases otherOpened
        exact follows.called done
      · rw [List.getElem?_set_ne same] at otherOpened
        exact (isolated.opened other otherStaging otherOpened).concat_of_ne same
    committed := fun other => by
      rw [committedUnits_concat_call]
      by_cases same : unit = other
      · subst same
        rw [List.getElem?_set_self bound]
        exact ⟨fun member => (uncommitted member).elim, (nomatch ·)⟩
      · rw [List.getElem?_set_ne same]
        exact isolated.committed other
    once := by
      rw [committedUnits_concat_call]
      exact isolated.once
    begun := fun exchange member => by
      rw [List.length_set]
      rcases List.mem_append.mp member with earlier | last
      · exact isolated.begun exchange earlier
      · rw [List.mem_singleton.mp last]
        exact bound
    answered := isolated.answered.concat (isolated.fits_call follows done) }

/-- What is staged clashes exactly with the units that have been committed meanwhile. -/
private theorem Isolated.clashes_iff (isolated : work.Isolated)
    (opened : work.units[unit]? = some (.opened staging)) :
    staging.Clashes work.ledger ↔
      ∃ other ∈ committedUnits work.log, other ≠ unit ∧ Contend work.log other unit := by
  have uncommitted := isolated.uncommitted opened
  have follows := isolated.opened unit staging opened
  rw [Staging.Clashes, isolated.headers, isolated.lines, follows.headers, follows.lines,
    exists_mem_committedRows_iff, exists_mem_committedRows_iff]
  constructor
  · intro clash
    rcases clash with ⟨other, committed, shared⟩ | ⟨other, committed, shared⟩
    · exact ⟨other, committed, fun same => uncommitted (same ▸ committed), Or.inl shared⟩
    · exact ⟨other, committed, fun same => uncommitted (same ▸ committed), Or.inr shared⟩
  · intro contender
    rcases contender with ⟨other, committed, _, shared | shared⟩
    · exact Or.inl ⟨other, committed, shared⟩
    · exact Or.inr ⟨other, committed, shared⟩

private theorem Isolated.fits_finish (isolated : work.Isolated)
    (opened : work.units[unit]? = some (.opened staging)) {ending : UnitEnding}
    {outcome : Except StoreFault Unit}
    (finished : Finished work.ledger staging ending outcome ledger) :
    (Exchange.finish unit ending outcome).Fits work.log := by
  cases finished with
  | committed free =>
      rw [isolated.clashes_iff opened] at free
      exact ⟨fun ⟨_, refused⟩ => (nomatch refused), fun taken => (free taken).elim⟩
  | refused taken =>
      rw [isolated.clashes_iff opened] at taken
      exact ⟨fun _ => taken, fun _ => ⟨_, rfl⟩⟩
  | rolledBack => rfl
  | dropped => rfl

private theorem Isolated.finish (isolated : work.Isolated) {ending : UnitEnding}
    {outcome : Except StoreFault Unit}
    (finished : work.finish unit ending = some (outcome, left)) : left.Isolated := by
  rcases of_finish_eq_some finished with ⟨staging, ledger, opened, done, rfl⟩
  have uncommitted := isolated.uncommitted opened
  have follows := isolated.opened unit staging opened
  have bound : unit < work.units.length := (List.getElem?_eq_some_iff.mp opened).1
  exact {
    headers := by
      rw [committedHeaders, committedRows_concat_finish, done.headers follows, isolated.headers]
    lines := by
      rw [committedLines, committedRows_concat_finish, done.lines follows, isolated.lines]
    headerIds := done.headerIds isolated.headerIds follows.headerIds
    lineKeys := done.lineKeys isolated.lineKeys follows.lineKeys
    opened := fun other otherStaging otherOpened => by
      by_cases same : unit = other
      · subst same
        rw [List.getElem?_set_self bound] at otherOpened
        cases otherOpened
      · rw [List.getElem?_set_ne same] at otherOpened
        exact (isolated.opened other otherStaging otherOpened).concat_of_ne same
    committed := fun other => by
      rw [committedUnits_concat, List.mem_append, Option.mem_toList,
        Exchange.committed?_finish_iff]
      by_cases same : unit = other
      · subst same
        rw [List.getElem?_set_self bound]
        simp [uncommitted]
      · rw [List.getElem?_set_ne same, ← isolated.committed other]
        simp [same]
    once := by
      rw [committedUnits_concat]
      refine List.nodup_append.mpr ⟨isolated.once, Option.toList_nodup _, ?_⟩
      intro other member last lastMember same
      rw [Option.mem_toList, Exchange.committed?_finish_iff] at lastMember
      rw [same, ← lastMember.1] at member
      exact uncommitted member
    begun := fun exchange member => by
      rw [List.length_set]
      rcases List.mem_append.mp member with earlier | last
      · exact isolated.begun exchange earlier
      · rw [List.mem_singleton.mp last]
        exact bound
    answered := isolated.answered.concat (isolated.fits_finish opened done) }

private theorem getElem?_begin_iff {state : UnitState} :
    work.begin.units[unit]? = some state ↔
      (unit = work.units.length ∧ state = .opened {}) ∨ work.units[unit]? = some state := by
  have units : work.begin.units = work.units ++ [.opened {}] := rfl
  rw [units]
  rcases Nat.lt_trichotomy unit work.units.length with earlier | last | beyond
  · rw [List.getElem?_append_left earlier]
    simp [Nat.ne_of_lt earlier]
  · simp [last, eq_comm]
  · rw [List.getElem?_append_right (Nat.le_of_lt beyond)]
    have past : 1 ≤ unit - work.units.length := by omega
    simp [List.getElem?_eq_none, Nat.le_of_lt beyond, past, Nat.ne_of_gt beyond]

private theorem Isolated.begin (isolated : work.Isolated) : work.begin.Isolated where
  headers := isolated.headers
  lines := isolated.lines
  headerIds := isolated.headerIds
  lineKeys := isolated.lineKeys
  opened := fun unit staging opened => by
    rcases getElem?_begin_iff.mp opened with ⟨new, empty⟩ | earlier
    · cases empty
      have absent : ∀ exchange ∈ work.log, exchange.unit ≠ unit := fun exchange member same =>
        Nat.lt_irrefl _ (new ▸ same ▸ isolated.begun exchange member)
      exact ⟨(stagedRows_eq_nil absent).symm, (stagedRows_eq_nil absent).symm, .nil, .nil⟩
    · exact isolated.opened unit staging earlier
  committed := fun unit => by
    rw [getElem?_begin_iff, ← isolated.committed]
    exact ⟨Or.inr, fun begun => begun.resolve_left fun ⟨_, opened⟩ => (nomatch opened)⟩
  once := isolated.once
  begun := fun exchange member => by
    have units : work.begin.units.length = work.units.length + 1 := List.length_append
    rw [units]
    exact Nat.lt_succ_of_lt (isolated.begun exchange member)
  answered := isolated.answered

private theorem Isolated.empty : Isolated {} where
  headers := rfl
  lines := rfl
  headerIds := .nil
  lineKeys := .nil
  opened := fun _ _ opened => nomatch opened
  committed := fun _ => ⟨(nomatch ·), (nomatch ·)⟩
  once := .nil
  begun := fun _ member => nomatch member
  answered := fun _ _ found => nomatch found

theorem Isolated.step (isolated : work.Isolated) (step : work.Step left) : left.Isolated := by
  cases step with
  | accounts => exact { isolated with }
  | postings => exact { isolated with }
  | begin => exact isolated.begin
  | call called => exact isolated.call called
  | finish finished => exact isolated.finish finished

theorem Isolated.steps (isolated : work.Isolated) (steps : work.Steps left) : left.Isolated := by
  induction steps with
  | refl => exact isolated
  | tail _ step earlier => exact earlier.step step

theorem Step.extends (step : work.Step left) : left.ledger.Extends work.ledger := by
  cases step with
  | accounts | postings | begin => exact ⟨List.prefix_rfl, List.prefix_rfl⟩
  | call called =>
      rcases of_call_eq_some called with ⟨_, _, _, _, rfl⟩
      exact ⟨List.prefix_rfl, List.prefix_rfl⟩
  | finish finished =>
      rcases of_finish_eq_some finished with ⟨staging, ledger, _, done, rfl⟩
      cases done with
      | committed => exact ⟨List.prefix_append _ _, List.prefix_append _ _⟩
      | refused | rolledBack | dropped => exact ⟨List.prefix_rfl, List.prefix_rfl⟩

theorem Steps.extends (steps : work.Steps left) : left.ledger.Extends work.ledger := by
  induction steps with
  | refl => exact ⟨List.prefix_rfl, List.prefix_rfl⟩
  | tail _ step earlier =>
      exact ⟨earlier.headers.trans step.extends.headers, earlier.lines.trans step.extends.lines⟩

/-- Units that were both committed share no identifier and no key. -/
private theorem Isolated.apart (isolated : work.Isolated) :
    (committedUnits work.log).Pairwise fun first second => ¬ Contend work.log first second := by
  have headerIds := isolated.headerIds
  have lineKeys := isolated.lineKeys
  rw [isolated.headers, committedHeaders, committedRows, List.map_flatMap,
    List.nodup_flatMap] at headerIds
  rw [isolated.lines, committedLines, committedRows, List.map_flatMap,
    List.nodup_flatMap] at lineKeys
  apply (headerIds.2.and lineKeys.2).imp
  intro first second apart contend
  rcases apart with ⟨headersApart, linesApart⟩
  rcases contend with
    ⟨header, member, other, otherMember, same⟩ | ⟨posted, member, other, otherMember, same⟩
  · exact headersApart (List.mem_map_of_mem member) (same ▸ List.mem_map_of_mem otherMember)
  · exact linesApart (List.mem_map_of_mem member) (same ▸ List.mem_map_of_mem otherMember)

end Workspace

/-- After any steps of any units of work and postings, in any order: the ledger holds
what the committed units staged, in the order they were committed; no identifier and no
key is there twice, whatever has been committed stays as it is, and of units that staged
the same one only one was committed; and every answer was the one that goes with what
was committed and staged at its time. -/
theorem units_isolated (events later : List WorkEvent) :
    let work := Workspace.reached events
    (work.ledger.headers = committedHeaders work.log ∧
      work.ledger.lines = committedLines work.log ∧
      (committedUnits work.log).Nodup ∧
      ∀ unit, unit ∈ committedUnits work.log ↔
        work.units[unit]? = some (.finished .commit (.ok ()))) ∧
    ((work.ledger.headers.map (·.transactionId)).Nodup ∧
      (work.ledger.lines.map PostedLine.key).Nodup ∧
      (Workspace.reached (events ++ later)).ledger.Extends work.ledger ∧
      (committedUnits work.log).Pairwise fun first second => ¬ Contend work.log first second) ∧
    Answered work.log := by
  intro work
  have isolated : work.Isolated := .steps .empty (Workspace.steps_reached [] events)
  exact ⟨⟨isolated.headers, isolated.lines, isolated.once, isolated.committed⟩,
    ⟨isolated.headerIds, isolated.lineKeys, (Workspace.steps_reached events later).extends,
      isolated.apart⟩, isolated.answered⟩

end DepositLedger.Memory
