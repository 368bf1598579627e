import DepositLedger.Proofs.Chronology
import DepositLedger.Relational.Database

/-! What is relied on of a database. Keys are unique, a transaction that is not committed leaves
nothing, rows are read as they were written, times of plain years have their order, and the
lines on an account come in the order they were inserted. A database that keeps its rows in
lists is one of those that can be relied on. -/

namespace DepositLedger.Relational

/-- Accounts with one identifier, or with one number at one bank. -/
def AccountRow.Clashes (row other : AccountRow) : Prop :=
  other.id = row.id ∨
    other.accountNumber = row.accountNumber ∧ other.routingNumber = row.routingNumber

/-- Lines of one transaction on one account. -/
def LineRow.Clashes (row other : LineRow) : Prop :=
  other.transactionId = row.transactionId ∧ other.accountId = row.accountId

/-- What is relied on of a database, where `holds` says which tables it has in a state, and
`sees` which tables are seen in a transaction that is open on it. -/
structure Engine.Lawful {σ υ : Type} (engine : Engine σ υ) (holds : σ → Tables → Prop)
    (sees : σ → υ → Tables → Prop) : Prop where
  begin : ∀ {state tables}, holds state tables →
    ∃ opened began, engine.begin state = (.ok opened, began) ∧ holds began tables ∧
      sees began opened tables
  commit : ∀ {state tables opened written}, holds state tables → sees state opened written →
    ∃ after, engine.commit opened state = (.ok (), after) ∧ holds after written
  /-- What was written in a transaction is discarded with it. -/
  rollback : ∀ {state tables opened written}, holds state tables → sees state opened written →
    ∃ outcome after, engine.rollback opened state = (outcome, after) ∧ holds after tables
  insertAccount_taken : ∀ {state tables row}, holds state tables →
    (∃ other ∈ tables.accounts, row.Clashes other) →
    ∃ detail after, engine.insertAccount row state = (.error (.uniqueViolation detail), after) ∧
      holds after tables
  insertAccount_free : ∀ {state tables row}, holds state tables →
    (∀ other ∈ tables.accounts, ¬ row.Clashes other) →
    ∃ after, engine.insertAccount row state = (.ok (), after) ∧
      holds after { tables with accounts := tables.accounts ++ [row] }
  findAccount : ∀ {state tables} (accountNumber routingNumber : String), holds state tables →
    ∃ found, engine.findAccount accountNumber routingNumber state = .ok found ∧
      found.isSome = tables.accounts.any fun row =>
        !row.deleted && row.accountNumber == accountNumber && row.routingNumber == routingNumber
  insertTransaction_taken : ∀ {state opened tables row}, sees state opened tables →
    (∃ other ∈ tables.transactions, other.id = row.id) →
    ∃ detail after,
      engine.insertTransaction row opened = (.error (.uniqueViolation detail), after) ∧
        sees state after tables
  insertTransaction_free : ∀ {state opened tables row}, sees state opened tables →
    (∀ other ∈ tables.transactions, other.id ≠ row.id) →
    ∃ after, engine.insertTransaction row opened = (.ok (), after) ∧
      sees state after { tables with transactions := tables.transactions ++ [row] }
  insertLine_taken : ∀ {state opened tables row}, sees state opened tables →
    (∃ other ∈ tables.lines, row.Clashes other) →
    ∃ detail after, engine.insertLine row opened = (.error (.uniqueViolation detail), after) ∧
      sees state after tables
  /-- A line needs a row of its transaction. -/
  insertLine_free : ∀ {state opened tables row}, sees state opened tables →
    (∀ other ∈ tables.lines, ¬ row.Clashes other) →
    (∃ header ∈ tables.transactions, header.id = row.transactionId) →
    ∃ after, engine.insertLine row opened = (.ok (), after) ∧
      sees state after { tables with lines := tables.lines ++ [row] }
  /-- Nothing is relied on of the order of accounts. -/
  accounts : ∀ {state opened tables} (query : AccountQuery), sees state opened tables →
    ∃ rows, engine.accounts query opened = .ok rows ∧
      rows.Perm (tables.accounts.filter query.meets)
  transactions : ∀ {state opened tables} (ids : List TransactionId), sees state opened tables →
    (∀ row ∈ tables.transactions,
      hasPlainYear row.timestamp = true ∧ hasPlainYear row.recordedAt = true) →
    ∃ rows, engine.transactions ids opened = .ok rows ∧
      rows.Perm (tables.transactions.filter fun row => !row.deleted && ids.contains row.id) ∧
      rows.Pairwise fun first second =>
        latestFirst TransactionRow.timestamp TransactionRow.recordedAt first second = true
  /-- Nothing is relied on of the order of lines that have one position. -/
  lines : ∀ {state opened tables} (ids : List TransactionId), sees state opened tables →
    ∃ rows, engine.lines ids opened = .ok rows ∧
      rows.Perm
        (tables.lines.filter fun row => !row.deleted && ids.contains row.transactionId) ∧
      rows.Pairwise fun first second => first.position ≤ second.position
  /-- The lines on an account come in the order they were inserted. -/
  linesOn : ∀ {state opened tables} (accountId : AccountId), sees state opened tables →
    engine.linesOn accountId opened =
      .ok (tables.lines.filter fun row => !row.deleted && row.accountId == accountId)
  transactionsOn : ∀ {state opened tables} (accountId : AccountId), sees state opened tables →
    ∃ ids, engine.transactionsOn accountId opened = .ok ids ∧
      ∀ id, id ∈ ids ↔ ∃ row ∈ tables.lines,
        row.deleted = false ∧ row.accountId = accountId ∧ row.transactionId = id

namespace Engine.Lawful

variable {σ υ : Type} {engine : Engine σ υ} {holds : σ → Tables → Prop}
  {sees : σ → υ → Tables → Prop} {state : σ} {tables : Tables}

/-- An outcome that is expected of reading the tables, whichever transaction they are seen in,
is that of reading in a transaction of its own, and the tables stay. -/
theorem reading (lawful : engine.Lawful holds sees) (held : holds state tables) {α : Type}
    {read : υ → Except LedgerFault α} {expected : Except LedgerFault α → Prop}
    (reads : ∀ {began opened}, sees began opened tables → expected (read opened)) :
    ∃ outcome after, engine.reading read state = (outcome, after) ∧ expected outcome ∧
      holds after tables := by
  rcases lawful.begin held with ⟨opened, began, begins, beganHolds, seen⟩
  have answered := reads seen
  simp only [Engine.reading, Action.bind_apply, Action.mapError, begins, Action.ofExcept]
  cases outcome : read opened with
  | error fault =>
      rw [outcome] at answered
      exact ⟨_, _, rfl, answered, beganHolds⟩
  | ok answer =>
      rw [outcome] at answered
      rcases lawful.commit beganHolds seen with ⟨after, commits, afterHolds⟩
      simp only [commits]
      exact ⟨_, _, rfl, answered, afterHolds⟩

end Engine.Lawful

/-! ## A database that keeps its rows in lists -/

private theorem LineRow.inOrder_iff {first second : LineRow} :
    first.inOrder second = true ↔
      first.position.toInt < second.position.toInt ∨
        first.position.toInt = second.position.toInt ∧
          (first.transactionId.uuid.number < second.transactionId.uuid.number ∨
            first.transactionId.uuid.number = second.transactionId.uuid.number ∧
              first.accountId.uuid.number ≤ second.accountId.uuid.number) := by
  have le {uuid other : Uuid} : uuid ≤ other ↔ uuid.number ≤ other.number := .rfl
  rw [inOrder]
  by_cases positions : first.position = second.position
  · by_cases transactions : first.transactionId = second.transactionId
    · simp [positions, transactions, le]
    · have numbers : first.transactionId.uuid.number ≠ second.transactionId.uuid.number :=
        fun same => transactions (congrArg EntityId.mk (Uuid.ext_number same))
      rw [if_pos positions, if_neg transactions, decide_eq_true_iff, le, positions]
      omega
  · have different : first.position.toInt ≠ second.position.toInt :=
      fun same => positions (Int32.toInt_inj.mp same)
    rw [if_neg positions, decide_eq_true_iff, Int32.le_iff_toInt_le]
    omega

namespace Tables

variable {tables : Tables}

private theorem insertAccount_of_clash {row : AccountRow}
    (taken : ∃ other ∈ tables.accounts, row.Clashes other) :
    ∃ detail, tables.insertAccount row = .error (.uniqueViolation detail) := by
  rw [insertAccount]
  by_cases numbered : (tables.accounts.any fun other =>
      other.accountNumber == row.accountNumber && other.routingNumber == row.routingNumber) = true
  · rw [if_pos numbered]
    exact ⟨_, rfl⟩
  · have known : (tables.accounts.any (·.id == row.id)) = true := by
      rcases taken with ⟨other, member, sameId | sameNumber⟩
      · exact List.any_eq_true.mpr ⟨other, member, beq_iff_eq.mpr sameId⟩
      · refine (numbered (List.any_eq_true.mpr ⟨other, member, ?_⟩)).elim
        rw [sameNumber.1, sameNumber.2, beq_self_eq_true, beq_self_eq_true, Bool.and_self]
    rw [if_neg numbered, if_pos known]
    exact ⟨_, rfl⟩

private theorem insertAccount_of_new {row : AccountRow}
    (free : ∀ other ∈ tables.accounts, ¬ row.Clashes other) :
    tables.insertAccount row = .ok { tables with accounts := tables.accounts ++ [row] } := by
  have numbered : ¬ (tables.accounts.any fun other => other.accountNumber == row.accountNumber &&
      other.routingNumber == row.routingNumber) = true := by
    intro taken
    rcases List.any_eq_true.mp taken with ⟨other, member, same⟩
    rw [Bool.and_eq_true, beq_iff_eq, beq_iff_eq] at same
    exact free other member (.inr same)
  have known : ¬ (tables.accounts.any (·.id == row.id)) = true := by
    intro taken
    rcases List.any_eq_true.mp taken with ⟨other, member, same⟩
    exact free other member (.inl (beq_iff_eq.mp same))
  rw [insertAccount, if_neg numbered, if_neg known]

private theorem insertTransaction_of_known {row : TransactionRow}
    (taken : ∃ other ∈ tables.transactions, other.id = row.id) :
    ∃ detail, tables.insertTransaction row = .error (.uniqueViolation detail) := by
  rcases taken with ⟨other, member, same⟩
  rw [insertTransaction, if_pos]
  · exact ⟨_, rfl⟩
  · exact List.any_eq_true.mpr ⟨other, member, beq_iff_eq.mpr same⟩

private theorem insertTransaction_of_new {row : TransactionRow}
    (free : ∀ other ∈ tables.transactions, other.id ≠ row.id) :
    tables.insertTransaction row =
      .ok { tables with transactions := tables.transactions ++ [row] } := by
  rw [insertTransaction, if_neg]
  intro taken
  rcases List.any_eq_true.mp taken with ⟨other, member, same⟩
  exact free other member (beq_iff_eq.mp same)

private theorem insertLine_of_clash {row : LineRow}
    (taken : ∃ other ∈ tables.lines, row.Clashes other) :
    ∃ detail, tables.insertLine row = .error (.uniqueViolation detail) := by
  rcases taken with ⟨other, member, sameTransaction, sameAccount⟩
  rw [insertLine, if_pos]
  · exact ⟨_, rfl⟩
  · refine List.any_eq_true.mpr ⟨other, member, ?_⟩
    rw [sameTransaction, sameAccount, beq_self_eq_true, beq_self_eq_true, Bool.and_self]

private theorem insertLine_of_new {row : LineRow}
    (free : ∀ other ∈ tables.lines, ¬ row.Clashes other)
    (headed : ∃ header ∈ tables.transactions, header.id = row.transactionId) :
    tables.insertLine row = .ok { tables with lines := tables.lines ++ [row] } := by
  rw [insertLine, if_neg, if_pos]
  · rcases headed with ⟨header, member, same⟩
    exact List.any_eq_true.mpr ⟨header, member, beq_iff_eq.mpr same⟩
  · intro taken
    rcases List.any_eq_true.mp taken with ⟨other, member, clash⟩
    rw [Bool.and_eq_true, beq_iff_eq, beq_iff_eq] at clash
    exact free other member clash

private theorem accountsMeeting_perm (query : AccountQuery) :
    (tables.accountsMeeting query).Perm (tables.accounts.filter query.meets) := by
  cases query with
  | withIds ids => exact (List.mergeSort_perm _ _).trans (List.mergeSort_perm _ _)
  | ofCustomer customerId => exact List.mergeSort_perm _ _
  | numbered accountNumber routingNumber accountType => exact List.mergeSort_perm _ _

theorem transactionsWithIds_latestFirst (ids : List TransactionId)
    (plain : ∀ row ∈ tables.transactions,
      hasPlainYear row.timestamp = true ∧ hasPlainYear row.recordedAt = true) :
    (tables.transactionsWithIds ids).Pairwise fun first second =>
      latestFirst TransactionRow.timestamp TransactionRow.recordedAt first second = true := by
  have sameOrder : tables.transactionsWithIds ids =
      (tables.transactions.filter fun row => !row.deleted && ids.contains row.id).mergeSort
        (latestFirst TransactionRow.timestamp TransactionRow.recordedAt) := by
    apply mergeSort_congr
    refine List.pairwise_of_forall_mem_list fun first firstMember second secondMember => ?_
    have firstPlain := plain first (List.mem_filter.mp firstMember).1
    have secondPlain := plain second (List.mem_filter.mp secondMember).1
    simp only [latestFirst, columnLe_of_plain secondPlain.1 firstPlain.1,
      columnLe_of_plain secondPlain.2 firstPlain.2]
  rw [sameOrder]
  exact pairwise_latestFirst _

/-- Lines are listed by position, whatever comes first of those of one position. -/
theorem linesOfTransactions_inOrder (ids : List TransactionId) :
    (tables.linesOfTransactions ids).Pairwise fun first second =>
      first.position ≤ second.position := by
  have sorted : (tables.linesOfTransactions ids).Pairwise fun first second =>
      first.inOrder second = true := by
    apply List.pairwise_mergeSort
    · intro first second third
      simp only [LineRow.inOrder_iff]
      omega
    · intro first second
      rw [Bool.or_eq_true, LineRow.inOrder_iff, LineRow.inOrder_iff]
      omega
  refine sorted.imp fun {first second} inOrder => ?_
  rw [LineRow.inOrder_iff] at inOrder
  rw [Int32.le_iff_toInt_le]
  omega

end Tables

private theorem Database.inserted_apply {table : String}
    {insert : Tables → Except StoreFault Tables} {tables : Tables} :
    Database.inserted table insert (some tables) =
      match insert tables with
      | .ok written => (.ok (), some written)
      | .error fault => (.error fault, some tables) := by
  simp only [inserted, Action.alter, present, bind, Except.bind]
  cases insert tables <;> rfl

theorem Database.engine_lawful :
    Database.engine.Lawful (fun database tables => database = { tables := some tables })
      (fun _ opened tables => opened = some tables) where
  begin := by
    rintro _ tables rfl
    exact ⟨_, _, rfl, rfl, rfl⟩
  commit := by
    rintro _ tables _ written rfl rfl
    exact ⟨_, rfl, rfl⟩
  rollback := by
    rintro _ tables _ written rfl rfl
    exact ⟨_, _, rfl, rfl⟩
  insertAccount_taken := by
    rintro _ tables row rfl taken
    rcases Tables.insertAccount_of_clash taken with ⟨detail, refused⟩
    refine ⟨detail, _, ?_, rfl⟩
    simp only [engine, Action.alter, opened, connect, present]
    rw [if_neg Bool.false_ne_true]
    simp only [bind, Except.bind, refused]
  insertAccount_free := by
    rintro _ tables row rfl free
    refine ⟨_, ?_, rfl⟩
    simp only [engine, Action.alter, opened, connect, present]
    rw [if_neg Bool.false_ne_true]
    simp only [bind, Except.bind, Tables.insertAccount_of_new free]
    rfl
  findAccount := by
    rintro _ tables accountNumber routingNumber rfl
    exact ⟨_, rfl, List.isSome_find?⟩
  insertTransaction_taken := by
    rintro _ _ tables row rfl taken
    rcases Tables.insertTransaction_of_known taken with ⟨detail, refused⟩
    refine ⟨detail, _, ?_, rfl⟩
    simp only [engine, inserted_apply, refused]
  insertTransaction_free := by
    rintro _ _ tables row rfl free
    refine ⟨_, ?_, rfl⟩
    simp only [engine, inserted_apply, Tables.insertTransaction_of_new free]
  insertLine_taken := by
    rintro _ _ tables row rfl taken
    rcases Tables.insertLine_of_clash taken with ⟨detail, refused⟩
    refine ⟨detail, _, ?_, rfl⟩
    simp only [engine, inserted_apply, refused]
  insertLine_free := by
    rintro _ _ tables row rfl free headed
    refine ⟨_, ?_, rfl⟩
    simp only [engine, inserted_apply, Tables.insertLine_of_new free headed]
  accounts := by
    rintro _ _ tables query rfl
    exact ⟨_, rfl, Tables.accountsMeeting_perm query⟩
  transactions := by
    rintro _ _ tables ids rfl plain
    exact ⟨_, rfl, List.mergeSort_perm _ _, Tables.transactionsWithIds_latestFirst ids plain⟩
  lines := by
    rintro _ _ tables ids rfl
    exact ⟨_, rfl, List.mergeSort_perm _ _, Tables.linesOfTransactions_inOrder ids⟩
  linesOn := by
    rintro _ _ tables accountId rfl
    rfl
  transactionsOn := by
    rintro _ _ tables accountId rfl
    refine ⟨_, rfl, fun id => ?_⟩
    simp [Tables.linesOnAccount, and_assoc]

end DepositLedger.Relational
