import DepositLedger.Proofs.Validation

/-! The rule of double entry. What the check of a transaction says is told from whole numbers:
which line is the first that has a fault, whether every sum on the way is in range, and what all
lines add up to. The order of the lines counts only for the sums on the way. -/

namespace DepositLedger

/-! ## Lines that have a fault -/

/-- The line has this fault, and none of those that are looked for before it. -/
def TransactionLine.Faulty (line : TransactionLine) : LineFault → Prop
  | .emptyAccountId => line.accountId = EntityId.nil
  | .zeroAmount => line.accountId ≠ EntityId.nil ∧ line.amount.value = 0
  | .negativeAmount amount =>
    line.accountId ≠ EntityId.nil ∧ line.amount = amount ∧ amount.value < 0

private theorem TransactionLine.check_error_iff {line : TransactionLine} {reason : LineFault} :
    line.check = .error reason ↔ line.Faulty reason := by
  unfold check
  by_cases unnamed : line.accountId = EntityId.nil
  · rw [if_pos (EntityId.isNil_iff.mpr unnamed)]
    cases reason <;> simp [Faulty, unnamed]
  · rw [if_neg fun nil => unnamed (EntityId.isNil_iff.mp nil)]
    by_cases zero : line.amount.value = 0
    · rw [if_pos zero]
      cases reason with
      | emptyAccountId => simp [Faulty, unnamed]
      | zeroAmount => simp [Faulty, unnamed, zero]
      | negativeAmount amount =>
          simp only [Faulty, Except.error.injEq, reduceCtorEq, false_iff]
          rintro ⟨_, rfl, negative⟩
          omega
    · rw [if_neg zero]
      by_cases negative : line.amount.value < 0
      · rw [if_pos negative]
        cases reason with
        | emptyAccountId => simp [Faulty, unnamed]
        | zeroAmount => simp [Faulty, zero]
        | negativeAmount amount =>
            simp only [Faulty, Except.error.injEq, LineFault.negativeAmount.injEq]
            exact ⟨fun same => ⟨unnamed, same, same ▸ negative⟩, fun faulty => faulty.2.1⟩
      · rw [if_neg negative]
        cases reason with
        | emptyAccountId => simp [Faulty, unnamed]
        | zeroAmount => simp [Faulty, zero]
        | negativeAmount amount =>
            simp only [Faulty, reduceCtorEq, false_iff]
            rintro ⟨_, rfl, below⟩
            exact negative below

/-- The line of this index has the fault, and no line before it has any. -/
structure FirstFault (lines : List TransactionLine) (index : Nat) (reason : LineFault) :
    Prop where
  faulty : ∃ line ∈ lines[index]?, line.Faulty reason
  soundBefore : ∀ line ∈ lines.take index, line.Sound

theorem firstFault_zero_iff {line : TransactionLine} {rest : List TransactionLine}
    {reason : LineFault} : FirstFault (line :: rest) 0 reason ↔ line.Faulty reason := by
  constructor
  · intro first
    simpa using first.faulty
  · intro faulty
    exact ⟨by simpa using faulty, by simp⟩

private theorem firstFault_succ_iff {line : TransactionLine} {rest : List TransactionLine}
    {index : Nat} {reason : LineFault} :
    FirstFault (line :: rest) (index + 1) reason ↔
      line.Sound ∧ FirstFault rest index reason := by
  constructor
  · intro first
    have before := first.soundBefore
    rw [List.take_succ_cons, List.forall_mem_cons] at before
    exact ⟨before.1, by simpa using first.faulty, before.2⟩
  · intro later
    refine ⟨by simpa using later.2.faulty, ?_⟩
    rw [List.take_succ_cons, List.forall_mem_cons]
    exact ⟨later.1, later.2.soundBefore⟩

/-- Lines are refused for the first one that has a fault. -/
private theorem checkLines_error_iff {start : Nat} {lines : List TransactionLine}
    {fault : ValidationFault} :
    checkLines start lines = .error fault ↔
      ∃ index reason, FirstFault lines index reason ∧
        fault = .invalidLine (start + index) reason := by
  induction lines generalizing start with
  | nil =>
      simp only [checkLines, reduceCtorEq, false_iff]
      rintro ⟨index, reason, ⟨⟨line, found, _⟩, _⟩, _⟩
      simp at found
  | cons line rest induction =>
      rw [checkLines]
      cases outcome : line.check with
      | error first =>
          have faulty := TransactionLine.check_error_iff.mp outcome
          constructor
          · intro refused
            cases refused
            exact ⟨0, first, firstFault_zero_iff.mpr faulty, rfl⟩
          · rintro ⟨index, reason, found, rfl⟩
            cases index with
            | zero =>
                have same := TransactionLine.check_error_iff.mpr (firstFault_zero_iff.mp found)
                rw [outcome] at same
                cases same
                rfl
            | succ index =>
                have passed := TransactionLine.check_ok_iff.mpr (firstFault_succ_iff.mp found).1
                rw [outcome] at passed
                cases passed
      | ok =>
          have sound := TransactionLine.check_ok_iff.mp outcome
          dsimp only
          rw [induction]
          constructor
          · rintro ⟨index, reason, found, rfl⟩
            exact ⟨index + 1, reason, firstFault_succ_iff.mpr ⟨sound, found⟩, by
              rw [Nat.add_assoc, Nat.add_comm 1]⟩
          · rintro ⟨index, reason, found, rfl⟩
            cases index with
            | zero =>
                have refused := TransactionLine.check_error_iff.mpr (firstFault_zero_iff.mp found)
                rw [outcome] at refused
                cases refused
            | succ index =>
                exact ⟨index, reason, (firstFault_succ_iff.mp found).2, by
                  rw [Nat.add_assoc, Nat.add_comm 1]⟩

namespace Transaction

variable {transaction : Transaction}

theorem checkShape_invalidLine_iff {index : Nat} {reason : LineFault} :
    transaction.checkShape = .error (.invalidLine index reason) ↔
      transaction.id ≠ EntityId.nil ∧ transaction.timestamp ≠ Timestamp.epoch ∧
        FirstFault transaction.lines index reason := by
  unfold checkShape
  by_cases unnamed : transaction.id = EntityId.nil
  · rw [if_pos (EntityId.isNil_iff.mpr unnamed)]
    simp [unnamed]
  · rw [if_neg fun nil => unnamed (EntityId.isNil_iff.mp nil)]
    cases lines : transaction.lines with
    | nil =>
        simp only [List.isEmpty_nil, if_true, Except.error.injEq, reduceCtorEq, false_iff]
        rintro ⟨_, _, ⟨line, found, _⟩, _⟩
        simp at found
    | cons line rest =>
        simp only [List.isEmpty_cons, Bool.false_eq_true, if_false]
        by_cases undated : transaction.timestamp = Timestamp.epoch
        · simp [undated]
        · rw [if_neg undated, checkLines_error_iff]
          simp [unnamed, undated]

/-- A transaction is refused for a line exactly as its structure is. -/
theorem check_invalidLine_iff {index : Nat} {reason : LineFault} :
    transaction.check = .error (.invalidLine index reason) ↔
      transaction.checkShape = .error (.invalidLine index reason) := by
  unfold check
  rcases transaction.checkShape with fault | ⟨⟨⟩⟩
  · rfl
  · cases transaction.total? with
    | none => simp
    | some sum =>
        dsimp only
        split <;> simp

/-! ## Sums -/

/-- Every sum on the way, line by line, is in the range of amounts. -/
def SumsInRange (transaction : Transaction) : Prop :=
  ∀ part, part <+: transaction.lines → Cents.InRange (exactTotal (part.map (·.toMovement)))

private theorem sumsInRange_iff :
    transaction.SumsInRange ↔ StaysInRange (transaction.lines.map (·.toMovement)) := by
  simp only [SumsInRange, StaysInRange, List.prefix_map_iff]
  constructor
  · rintro stays _ ⟨part, initial, rfl⟩
    exact stays part initial
  · intro stays part initial
    exact stays _ ⟨part, initial, rfl⟩

/-- Sound lines can be added up exactly if every sum on the way is in range. -/
theorem Shaped.isSome_total?_iff (shaped : transaction.Shaped) :
    transaction.total?.isSome ↔ transaction.SumsInRange := by
  rw [total?_eq_balance?, isSome_balance?_iff, ← sumsInRange_iff, and_iff_right_iff_imp]
  intro _ movement member
  rcases List.mem_map.mp member with ⟨line, lineMember, rfl⟩
  rcases Movement.effect?_of_pos (shaped.lines line lineMember).positive with ⟨effect, found, _⟩
  rw [found]
  rfl

theorem Shaped.check_of_overflow (shaped : transaction.Shaped)
    (beyond : ¬ transaction.SumsInRange) :
    transaction.check = .error (.amountOverflow transaction.lines.length) := by
  rw [← shaped.isSome_total?_iff, Option.not_isSome_iff_eq_none] at beyond
  rw [check, checkShape_ok_iff.mpr shaped, beyond]

private theorem Shaped.check_of_sumsInRange (shaped : transaction.Shaped)
    (stays : transaction.SumsInRange) :
    ∃ sum : Cents, sum.value = transaction.exactSum ∧
      transaction.check =
        if transaction.exactSum = 0 then .ok ()
        else .error (.unbalanced sum transaction.lines.length) := by
  rw [← shaped.isSome_total?_iff, Option.isSome_iff_exists] at stays
  rcases stays with ⟨sum, found⟩
  have value : sum.value = transaction.exactSum := by
    rw [total?_eq_balance?] at found
    exact balance?_value found
  refine ⟨sum, value, ?_⟩
  rw [check, checkShape_ok_iff.mpr shaped, found, ← value]

theorem check_ok_iff :
    transaction.check = .ok () ↔
      transaction.Shaped ∧ transaction.SumsInRange ∧ transaction.exactSum = 0 := by
  constructor
  · intro passed
    have shaped := shaped_of_check passed
    refine ⟨shaped, ?_, exactSum_eq_zero_of_check passed⟩
    by_contra beyond
    rw [shaped.check_of_overflow beyond] at passed
    cases passed
  · rintro ⟨shaped, stays, zero⟩
    rcases shaped.check_of_sumsInRange stays with ⟨sum, _, checked⟩
    rw [checked, if_pos zero]

private theorem Shaped.check_amountOverflow_iff (shaped : transaction.Shaped) {count : Nat} :
    transaction.check = .error (.amountOverflow count) ↔
      ¬ transaction.SumsInRange ∧ count = transaction.lines.length := by
  by_cases stays : transaction.SumsInRange
  · rcases shaped.check_of_sumsInRange stays with ⟨sum, _, checked⟩
    rw [checked]
    split <;> simp [stays]
  · rw [shaped.check_of_overflow stays]
    simp [stays, eq_comm]

theorem Shaped.exists_check_unbalanced (shaped : transaction.Shaped)
    (stays : transaction.SumsInRange) (nonzero : transaction.exactSum ≠ 0) :
    ∃ sum : Cents, sum.value = transaction.exactSum ∧
      transaction.check = .error (.unbalanced sum transaction.lines.length) := by
  rcases shaped.check_of_sumsInRange stays with ⟨sum, value, checked⟩
  rw [if_neg nonzero] at checked
  exact ⟨sum, value, checked⟩

/-! ## The order of lines -/

private theorem Shaped.of_perm (shaped : transaction.Shaped) {lines : List TransactionLine}
    (reordered : lines.Perm transaction.lines) : Shaped { transaction with lines } where
  named := shaped.named
  nonempty := fun empty => shaped.nonempty (List.nil_perm.mp (empty ▸ reordered))
  dated := shaped.dated
  lines := fun line member => shaped.lines line (reordered.mem_iff.mp member)

end Transaction

theorem exactTotal_perm {first second : List Movement} (reordered : first.Perm second) :
    exactTotal first = exactTotal second := by
  induction reordered with
  | nil => rfl
  | cons movement _ induction => rw [exactTotal_cons, exactTotal_cons, induction]
  | swap movement other rest =>
      simp only [exactTotal_cons]
      omega
  | trans _ _ first second => exact first.trans second

/-- Where sums stay in range, nothing else about the order of the lines is checked. -/
theorem Transaction.Shaped.check_perm {transaction : Transaction} (shaped : transaction.Shaped)
    {lines : List TransactionLine} (reordered : lines.Perm transaction.lines)
    (stays : transaction.SumsInRange)
    (staysReordered : SumsInRange { transaction with lines }) :
    check { transaction with lines } = transaction.check := by
  have sameSum : exactSum { transaction with lines } = transaction.exactSum :=
    exactTotal_perm (reordered.map _)
  rcases shaped.check_of_sumsInRange stays with ⟨sum, value, checked⟩
  rcases (shaped.of_perm reordered).check_of_sumsInRange staysReordered with
    ⟨other, otherValue, otherChecked⟩
  have same : other = sum := Cents.ext_value (by rw [otherValue, value, sameSum])
  rw [otherChecked, checked, sameSum, same, reordered.length_eq]

/-- A transaction passes exactly if it is shaped well, every sum on the way is in range, and all
of it adds up to zero. If only the sums are at fault it is told so, and which of its lines is the
first at fault if that is what is wrong. The order of lines decides no more than whether the sums
stay in range. -/
theorem check_decides_double_entry (transaction : Transaction) :
    (transaction.check = .ok () ↔
      transaction.Shaped ∧ transaction.SumsInRange ∧ transaction.exactSum = 0) ∧
    (transaction.Shaped →
      (∀ count, transaction.check = .error (.amountOverflow count) ↔
        ¬ transaction.SumsInRange ∧ count = transaction.lines.length) ∧
      (transaction.SumsInRange → transaction.exactSum ≠ 0 →
        ∃ sum : Cents, sum.value = transaction.exactSum ∧
          transaction.check = .error (.unbalanced sum transaction.lines.length))) ∧
    (∀ index reason, transaction.check = .error (.invalidLine index reason) ↔
      transaction.id ≠ EntityId.nil ∧ transaction.timestamp ≠ Timestamp.epoch ∧
        FirstFault transaction.lines index reason) ∧
    (transaction.exactSum ≠ 0 → transaction.check ≠ .ok ()) ∧
    (transaction.Shaped → ∀ lines, lines.Perm transaction.lines →
      let reordered : Transaction := { transaction with lines }
      reordered.check = transaction.check ∨
        reordered.check = .error (.amountOverflow reordered.lines.length) ∨
        transaction.check = .error (.amountOverflow transaction.lines.length)) := by
  refine ⟨Transaction.check_ok_iff, ?_, ?_, ?_, ?_⟩
  · intro shaped
    exact ⟨fun _ => shaped.check_amountOverflow_iff, shaped.exists_check_unbalanced⟩
  · intro index reason
    rw [Transaction.check_invalidLine_iff, Transaction.checkShape_invalidLine_iff]
  · intro nonzero passed
    exact nonzero (Transaction.exactSum_eq_zero_of_check passed)
  · intro shaped lines perm reordered
    by_cases stays : transaction.SumsInRange
    · by_cases staysReordered : reordered.SumsInRange
      · exact Or.inl (shaped.check_perm perm stays staysReordered)
      · exact Or.inr (Or.inl ((shaped.of_perm perm).check_of_overflow staysReordered))
    · exact Or.inr (Or.inr (shaped.check_of_overflow stays))

end DepositLedger
