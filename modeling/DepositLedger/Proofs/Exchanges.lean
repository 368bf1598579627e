import DepositLedger.Proofs.Units

/-! What a log of exchanges tells: the rows that each unit of work has staged, the units
that have been committed, the rows that are in the ledger because of it, and how
anything asked of a unit has to be answered. -/

namespace DepositLedger

open Memory

def UnitCall.header? : UnitCall → Option Header
  | .writeHeader transactionId timestamp _ => some ⟨transactionId, timestamp⟩
  | _ => none

def UnitCall.line? : UnitCall → Option PostedLine
  | .writeLine transactionId line => some ⟨transactionId, line⟩
  | _ => none

namespace Memory

section

variable {α : Type} {pick : UnitCall → Option α} {log : List Exchange}

namespace Exchange

def unit : Exchange → Nat
  | .call unit _ _ => unit
  | .finish unit _ _ => unit

/-- The row that an exchange stages in a unit, if it is written and not refused. -/
def staged? (pick : UnitCall → Option α) (unit : Nat) : Exchange → Option α
  | .call other asked (.ok _) => if other = unit then pick asked else none
  | _ => none

def committed? : Exchange → Option Nat
  | .finish unit .commit (.ok ()) => some unit
  | _ => none

private theorem staged?_of_ne {exchange : Exchange} {unit : Nat}
    (different : exchange.unit ≠ unit) :
    exchange.staged? pick unit = none := by
  cases exchange with
  | finish => rfl
  | call other asked answer =>
      cases answer with
      | error fault => rfl
      | ok movements => exact if_neg different

theorem committed?_finish_iff {unit other : Nat} {ending : UnitEnding}
    {outcome : Except StoreFault Unit} :
    (finish unit ending outcome).committed? = some other ↔
      unit = other ∧ ending = .commit ∧ outcome = .ok () := by
  cases ending <;> rcases outcome with fault | ⟨⟨⟩⟩ <;> simp [committed?]

end Exchange

/-- The rows that a unit has staged, in the order it did. -/
def stagedRows (pick : UnitCall → Option α) (log : List Exchange) (unit : Nat) : List α :=
  log.filterMap (Exchange.staged? pick unit)

/-- The units that have been committed, in the order they were. -/
def committedUnits (log : List Exchange) : List Nat := log.filterMap Exchange.committed?

def committedRows (pick : UnitCall → Option α) (log : List Exchange) : List α :=
  (committedUnits log).flatMap (stagedRows pick log)

theorem stagedRows_concat (exchange : Exchange) (unit : Nat) :
    stagedRows pick (log ++ [exchange]) unit =
      stagedRows pick log unit ++ (exchange.staged? pick unit).toList := by
  rw [stagedRows, List.filterMap_append, stagedRows]
  cases staged : exchange.staged? pick unit <;> simp [staged]

theorem stagedRows_concat_of_ne {exchange : Exchange} {unit : Nat}
    (different : exchange.unit ≠ unit) :
    stagedRows pick (log ++ [exchange]) unit = stagedRows pick log unit := by
  rw [stagedRows_concat, Exchange.staged?_of_ne different, Option.toList_none, List.append_nil]

private theorem stagedRows_concat_finish (unit : Nat) (ending : UnitEnding)
    (outcome : Except StoreFault Unit) :
    stagedRows pick (log ++ [.finish unit ending outcome]) = stagedRows pick log := by
  funext other
  rw [stagedRows_concat]
  exact List.append_nil _

theorem stagedRows_eq_nil {unit : Nat} (absent : ∀ exchange ∈ log, exchange.unit ≠ unit) :
    stagedRows pick log unit = [] :=
  List.filterMap_eq_nil_iff.mpr fun exchange member =>
    Exchange.staged?_of_ne (absent exchange member)

theorem committedUnits_concat (exchange : Exchange) :
    committedUnits (log ++ [exchange]) =
      committedUnits log ++ exchange.committed?.toList := by
  rw [committedUnits, List.filterMap_append, committedUnits]
  cases committed : exchange.committed? <;> simp [committed]

theorem committedUnits_concat_call (unit : Nat) (call : UnitCall)
    (answer : Except StoreFault (List Movement)) :
    committedUnits (log ++ [.call unit call answer]) = committedUnits log := by
  rw [committedUnits_concat]
  exact List.append_nil _

/-- Calls in a unit that has not been committed change nothing that has. -/
theorem committedRows_concat_call {unit : Nat} (uncommitted : unit ∉ committedUnits log)
    (call : UnitCall) (answer : Except StoreFault (List Movement)) :
    committedRows pick (log ++ [.call unit call answer]) = committedRows pick log := by
  rw [committedRows, committedUnits_concat_call, committedRows]
  apply List.flatMap_congr
  intro other member
  apply stagedRows_concat_of_ne
  intro (same : unit = other)
  exact uncommitted (same ▸ member)

theorem committedRows_concat_finish (unit : Nat) (ending : UnitEnding)
    (outcome : Except StoreFault Unit) :
    committedRows pick (log ++ [.finish unit ending outcome]) =
      committedRows pick log ++
        (Exchange.finish unit ending outcome).committed?.toList.flatMap (stagedRows pick log) := by
  rw [committedRows, committedUnits_concat, List.flatMap_append, committedRows,
    stagedRows_concat_finish]

/-- Rows that share keys with the committed ones share them with those of one unit. -/
theorem exists_mem_committedRows_iff {κ : Type} {key : α → κ} {rows : List α} :
    (∃ row ∈ rows, key row ∈ (committedRows pick log).map key) ↔
      ∃ unit ∈ committedUnits log, ∃ other ∈ stagedRows pick log unit, ∃ row ∈ rows,
        key other = key row := by
  constructor
  · intro clash
    rcases clash with ⟨row, member, taken⟩
    rcases List.mem_map.mp taken with ⟨other, otherMember, same⟩
    rcases List.mem_flatMap.mp otherMember with ⟨unit, committed, staged⟩
    exact ⟨unit, committed, other, staged, row, member, same⟩
  · intro shared
    rcases shared with ⟨unit, committed, other, staged, row, member, same⟩
    exact ⟨row, member, List.mem_map.mpr
      ⟨other, List.mem_flatMap.mpr ⟨unit, committed, staged⟩, same⟩⟩

end

abbrev stagedHeaders : List Exchange → Nat → List Header := stagedRows UnitCall.header?

abbrev stagedLines : List Exchange → Nat → List PostedLine := stagedRows UnitCall.line?

abbrev committedHeaders : List Exchange → List Header := committedRows UnitCall.header?

abbrev committedLines : List Exchange → List PostedLine := committedRows UnitCall.line?

/-- Two units have staged the same identifier of a header or the same key of a line. -/
def Contend (log : List Exchange) (first second : Nat) : Prop :=
  (∃ header ∈ stagedHeaders log first, ∃ other ∈ stagedHeaders log second,
    header.transactionId = other.transactionId) ∨
  ∃ posted ∈ stagedLines log first, ∃ other ∈ stagedLines log second, posted.key = other.key

/-- The answer is the one that goes with the exchanges before it: a unit sees what has
been committed and what it has staged, and is refused what another has committed. -/
def Exchange.Fits (earlier : List Exchange) : Exchange → Prop
  | .call unit (.writeHeader transactionId _ _) answer =>
    (∃ fault, answer = .error fault) ↔
      transactionId ∈ (committedHeaders earlier ++ stagedHeaders earlier unit).map
        (·.transactionId)
  | .call unit (.writeLine transactionId line) answer =>
    (∃ fault, answer = .error fault) ↔
      (transactionId, line.accountId) ∈
        (committedLines earlier ++ stagedLines earlier unit).map PostedLine.key
  | .call unit (.readMovements accountId) answer =>
    answer = .ok (movementsOf (committedLines earlier) accountId ++
      movementsOf (stagedLines earlier unit) accountId)
  | .finish unit .commit outcome =>
    (∃ fault, outcome = .error fault) ↔
      ∃ other ∈ committedUnits earlier, other ≠ unit ∧ Contend earlier other unit
  | .finish _ .rollback outcome | .finish _ .drop outcome => outcome = .ok ()

/-- All that has been asked was answered as it had to be at its time. -/
def Answered (log : List Exchange) : Prop :=
  ∀ (place : Nat) (exchange : Exchange), log[place]? = some exchange →
    exchange.Fits (log.take place)

theorem Answered.concat {log : List Exchange} {exchange : Exchange} (answered : Answered log)
    (fits : exchange.Fits log) : Answered (log ++ [exchange]) := by
  intro place other found
  by_cases earlier : place < log.length
  · rw [List.getElem?_append_left earlier] at found
    rw [List.take_append_of_le_length (Nat.le_of_lt earlier)]
    exact answered place other found
  · rw [List.getElem?_append_right (Nat.le_of_not_lt earlier)] at found
    rcases List.getElem?_eq_some_iff.mp found with ⟨bound, same⟩
    have last : place = log.length := by
      rw [List.length_singleton] at bound
      omega
    subst last
    simp only [Nat.sub_self, List.getElem_cons_zero] at same
    subst same
    rw [List.take_left]
    exact fits

end Memory

end DepositLedger
