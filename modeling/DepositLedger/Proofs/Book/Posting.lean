import DepositLedger.Proofs.Book.Accounts

/-! What changes a book: an account that is added, and a transaction that is posted. Tables
look for the same keys as the ledger in memory, and a unit of work on them sees a book with one
more transaction, of which not all lines have been written. -/

namespace DepositLedger

open Memory Relational

namespace Book

variable {book : Book} {σ υ : Type} {engine : Engine σ υ} {holds : σ → Tables → Prop}
  {sees : σ → υ → Tables → Prop} {state : σ}

/-! ## Adding accounts -/

private theorem ledger_hold (book : Book) (holding : Holding) :
    (book.hold holding).ledger =
      { book.ledger with accounts := book.ledger.accounts ++ [holding.stored] } := by
  simp [hold, ledger, journal]

private theorem tables_hold (book : Book) (holding : Holding) :
    (book.hold holding).tables =
      { book.tables with accounts := book.tables.accounts ++ [holding.row] } := by
  simp [hold, tables, placed]

/-- A row that has the key of one in a table has the key of an account in memory. -/
private theorem clashes_tables (book : Book) (holding : Holding) :
    (∃ other ∈ book.tables.accounts, holding.row.Clashes other) ↔
      (book.ledger.accounts.any fun other =>
        other.accountNumber == holding.account.accountNumber &&
          other.routingNumber == holding.account.routingNumber) = true ∨
        book.ledger.accounts.any (·.id == holding.account.id) = true := by
  simp only [tables, ledger, List.mem_map, List.any_map, List.any_eq_true, Function.comp_apply,
    Bool.and_eq_true, beq_iff_eq, AccountRow.Clashes]
  constructor
  · rintro ⟨_, ⟨other, member, rfl⟩, sameId | sameNumber⟩
    · exact .inr ⟨other, member, sameId⟩
    · exact .inl ⟨other, member, sameNumber⟩
  · rintro (⟨other, member, sameNumber⟩ | ⟨other, member, sameId⟩)
    · exact ⟨other.row, ⟨other, member, rfl⟩, .inr sameNumber⟩
    · exact ⟨other.row, ⟨other, member, rfl⟩, .inl sameId⟩

/-- Whether what refused an account was its number is found out by looking for the number. -/
private theorem addAccount_of_clash (lawful : engine.Lawful holds sees)
    (held : holds state book.tables) {customerId : CustomerId} {account : Account}
    (taken : ∃ other ∈ book.tables.accounts,
      (AccountRow.ofAccount customerId account).Clashes other) :
    ∃ detail after, engine.addAccount customerId account state =
        (.error (if book.ledger.accounts.any fun other =>
            other.accountNumber == account.accountNumber &&
              other.routingNumber == account.routingNumber then
          .duplicateAccount account.accountNumber account.routingNumber
        else .store (.uniqueViolation detail)), after) ∧ holds after book.tables := by
  rcases lawful.insertAccount_taken held taken with ⟨detail, after, refused, held⟩
  rcases lawful.findAccount account.accountNumber account.routingNumber held with
    ⟨found, looked, live⟩
  have live : found.isSome = book.ledger.accounts.any fun other =>
      other.accountNumber == account.accountNumber &&
        other.routingNumber == account.routingNumber := by
    rw [live, tables, ledger, List.any_map, List.any_map]
    rfl
  refine ⟨detail, after, ?_, held⟩
  rw [Engine.addAccount, refused, ← live]
  dsimp only
  rw [looked]
  cases found <;> rfl

private theorem addAccount_of_new (lawful : engine.Lawful holds sees)
    (held : holds state book.tables) {customerId : CustomerId} {account : Account}
    (free : ¬ ∃ other ∈ book.tables.accounts,
      (AccountRow.ofAccount customerId account).Clashes other) :
    ∃ after, engine.addAccount customerId account state = (.ok (), after) ∧
      holds after (book.hold ⟨customerId, account⟩).tables := by
  rcases lawful.insertAccount_free held fun other member clashes =>
    free ⟨other, member, clashes⟩ with ⟨after, inserted, held⟩
  refine ⟨after, ?_, ?_⟩
  · rw [Engine.addAccount, inserted]
  · rw [tables_hold]
    exact held

/-- Inserting an account and then looking for what refused it says what looking first says. -/
theorem addAccount_cases (lawful : engine.Lawful holds sees) (held : holds state book.tables)
    (customerId : CustomerId) (account : Account) :
    (∃ fault other after, fault.Alike (fun _ => False) other ∧
      book.ledger.addAccount customerId account = .error fault ∧
      engine.addAccount customerId account state = (.error other, after) ∧
      holds after book.tables) ∨
    (book.ledger.addAccount customerId account = .ok (book.hold ⟨customerId, account⟩).ledger ∧
      ∃ after, engine.addAccount customerId account state = (.ok (), after) ∧
        holds after (book.hold ⟨customerId, account⟩).tables) := by
  have clashes := book.clashes_tables ⟨customerId, account⟩
  rw [Ledger.addAccount, ledger_hold]
  cases numbered : book.ledger.accounts.any fun other =>
      other.accountNumber == account.accountNumber &&
        other.routingNumber == account.routingNumber with
  | true =>
      rcases addAccount_of_clash lawful held (clashes.mpr (.inl numbered)) with
        ⟨detail, after, refused, held⟩
      rw [numbered] at refused
      exact .inl ⟨_, _, after, .same _, rfl, refused, held⟩
  | false =>
      cases identified : book.ledger.accounts.any (·.id == account.id) with
      | true =>
          rcases addAccount_of_clash lawful held (clashes.mpr (.inr identified)) with
            ⟨detail, after, refused, held⟩
          rw [numbered] at refused
          exact .inl ⟨_, _, after, .taken _ _, rfl, refused, held⟩
      | false =>
          have free : ¬ ∃ other ∈ book.tables.accounts,
              (AccountRow.ofAccount customerId account).Clashes other := by
            intro taken
            rcases clashes.mp taken with sameNumber | sameId
            · exact Bool.eq_false_iff.mp numbered sameNumber
            · exact Bool.eq_false_iff.mp identified sameId
          exact .inr ⟨rfl, addAccount_of_new lawful held free⟩

/-! ## Posting transactions -/

private theorem tables_record (book : Book) (entry : Entry) :
    (book.record entry).tables = { book.tables with
      transactions := book.tables.transactions ++ [entry.row]
      lines := book.tables.lines ++ entry.placed.map PlacedLine.row } := by
  simp [record, tables, placed]

/-- A header that has been written is a transaction without lines. -/
private theorem tables_record_header (book : Book) (id : TransactionId)
    (timestamp recordedAt : Timestamp) :
    (book.record ⟨⟨id, timestamp, []⟩, recordedAt⟩).tables = { book.tables with
      transactions := book.tables.transactions ++ [{ id, timestamp, recordedAt }] } := by
  have noLines : Entry.placed ⟨⟨id, timestamp, []⟩, recordedAt⟩ = [] := rfl
  rw [tables_record, noLines, List.map_nil, List.append_nil]
  rfl

/-- A line that has been written has its place after those before it. -/
private theorem tables_record_line (book : Book) (id : TransactionId)
    (timestamp recordedAt : Timestamp) (earlier : List TransactionLine) (line : TransactionLine) :
    (book.record ⟨⟨id, timestamp, earlier ++ [line]⟩, recordedAt⟩).tables =
      { (book.record ⟨⟨id, timestamp, earlier⟩, recordedAt⟩).tables with
        lines := (book.record ⟨⟨id, timestamp, earlier⟩, recordedAt⟩).tables.lines ++
          [PlacedLine.row (⟨id, line⟩, earlier.length)] } := by
  simp [tables_record, Entry.placed, Entry.row, Transaction.kept, keepLines, List.zipIdx_append]

private theorem known_tables (book : Book) (id : TransactionId) :
    (∃ other ∈ book.tables.transactions, other.id = id) ↔
      hasHeader book.ledger.headers id = true := by
  simp [tables, ledger, journal, hasHeader, Entry.row, Transaction.header]

/-- Where some lines of a transaction have been written, its next line is refused for an account
that has a line of it. -/
private theorem lineClashes_tables (book : Book) (id : TransactionId)
    (timestamp recordedAt : Timestamp)
    (earlier : List TransactionLine) (row : LineRow) (own : row.transactionId = id) :
    (∃ other ∈ (book.record ⟨⟨id, timestamp, earlier⟩, recordedAt⟩).tables.lines,
        row.Clashes other) ↔
      (hasLine (keepLines id earlier) id row.accountId ||
        hasLine book.ledger.lines id row.accountId) = true := by
  have inMemory : (hasLine (keepLines id earlier) id row.accountId ||
      hasLine book.ledger.lines id row.accountId) =
        hasLine (book.record ⟨⟨id, timestamp, earlier⟩, recordedAt⟩).ledger.lines id
          row.accountId := by
    rw [ledger_record, Ledger.posted, hasLine, hasLine, hasLine, List.any_append, Bool.or_comm]
  rw [inMemory, lines_ledger]
  simp [tables, hasLine, LineRow.Clashes, PlacedLine.row, own]

/-- A unit of work that has written a transaction, up to some of its lines. -/
structure Written (book : Book) (sees : σ → υ → Tables → Prop) (state : σ) (entry : Entry)
    (work : UnitOfWork υ) : Prop where
  seen : sees state work.opened (book.record entry).tables
  position : work.nextPosition = positionAfter entry.transaction.lines.length

/-- A unit of work inserts a line at the position it has come to. -/
private theorem writeLine_engine (engine : Engine σ υ) (state : σ) (opened : υ)
    (posted : PostedLine) (written : Nat) :
    engine.store.writeLine posted.transactionId posted.line
        (state, ⟨opened, positionAfter written⟩) =
      match engine.insertLine (PlacedLine.row (posted, written)) opened with
      | (.ok (), after) => (.ok (), (state, ⟨after, positionAfter (written + 1)⟩))
      | (.error fault, after) => (.error fault, (state, ⟨after, positionAfter written⟩)) :=
  rfl

private theorem keepsLines_engine (lawful : engine.Lawful holds sees) (book : Book)
    (id : TransactionId) (timestamp recordedAt : Timestamp) :
    KeepsLines engine.store book.ledger id state fun lines work =>
      book.Written sees state ⟨⟨id, timestamp, lines⟩, recordedAt⟩ work where
  taken := by
    rintro earlier line ⟨opened, position⟩ ⟨seen, rfl⟩ taken
    have clash := (book.lineClashes_tables id timestamp recordedAt earlier
      (PlacedLine.row (⟨id, line⟩, earlier.length)) rfl).mpr taken
    rcases lawful.insertLine_taken seen clash with ⟨detail, after, refused, seen⟩
    have wrote := writeLine_engine engine state opened ⟨id, line⟩ earlier.length
    rw [refused] at wrote
    exact ⟨detail, _, wrote, seen, rfl⟩
  free := by
    rintro earlier line ⟨opened, position⟩ ⟨seen, rfl⟩ free
    have clashes := book.lineClashes_tables id timestamp recordedAt earlier
      (PlacedLine.row (⟨id, line⟩, earlier.length)) rfl
    have headed : ∃ header ∈
        (book.record ⟨⟨id, timestamp, earlier⟩, recordedAt⟩).tables.transactions,
        header.id = id := by
      rw [tables_record]
      exact ⟨_, List.mem_append_right _ (List.mem_singleton_self _), rfl⟩
    rcases lawful.insertLine_free seen (fun other member clash =>
      Bool.eq_false_iff.mp free (clashes.mp ⟨other, member, clash⟩)) headed with
      ⟨after, inserted, seen⟩
    have wrote := writeLine_engine engine state opened ⟨id, line⟩ earlier.length
    rw [inserted] at wrote
    refine ⟨_, wrote, ?_, ?_⟩
    · rw [tables_record_line]
      exact seen
    · rw [List.length_append, List.length_singleton]
  movements := by
    rintro earlier ⟨opened, position⟩ written accountId
    have read := movements_engine lawful written.seen accountId
    rw [ledger_record, Ledger.posted, movementsOf_append] at read
    exact congrArg (·, (state, _)) read

private theorem writeHeader_engine (engine : Engine σ υ) (state : σ) (opened : υ)
    (id : TransactionId) (timestamp recordedAt : Timestamp) :
    engine.store.writeHeader id timestamp recordedAt (state, ⟨opened, 0⟩) =
      match engine.insertTransaction { id, timestamp, recordedAt } opened with
      | (outcome, after) => (outcome, (state, ⟨after, 0⟩)) :=
  rfl

private theorem writeHeader_of_known (lawful : engine.Lawful holds sees) {opened : υ}
    (seen : sees state opened book.tables) {id : TransactionId} (timestamp recordedAt : Timestamp)
    (taken : hasHeader book.ledger.headers id = true) :
    ∃ detail after, engine.store.writeHeader id timestamp recordedAt (state, ⟨opened, 0⟩) =
        (.error (.uniqueViolation detail), (state, ⟨after, 0⟩)) ∧
      sees state after book.tables := by
  let row : TransactionRow := { id, timestamp, recordedAt }
  have known : ∃ other ∈ book.tables.transactions, other.id = row.id :=
    (book.known_tables id).mpr taken
  rcases lawful.insertTransaction_taken seen known with ⟨detail, after, refused, seen⟩
  rw [writeHeader_engine, refused]
  exact ⟨detail, after, rfl, seen⟩

private theorem writeHeader_of_new (lawful : engine.Lawful holds sees) {opened : υ}
    (seen : sees state opened book.tables) {id : TransactionId} (timestamp recordedAt : Timestamp)
    (free : ¬ hasHeader book.ledger.headers id = true) :
    ∃ work, engine.store.writeHeader id timestamp recordedAt (state, ⟨opened, 0⟩) =
        (.ok (), (state, work)) ∧
      book.Written sees state ⟨⟨id, timestamp, []⟩, recordedAt⟩ work := by
  let row : TransactionRow := { id, timestamp, recordedAt }
  have new : ∀ other ∈ book.tables.transactions, other.id ≠ row.id :=
    fun other member same => free ((book.known_tables id).mp ⟨other, member, same⟩)
  rcases lawful.insertTransaction_free seen new with ⟨after, inserted, seen⟩
  rw [writeHeader_engine, inserted]
  refine ⟨_, rfl, ?_, rfl⟩
  rw [tables_record_header]
  exact seen

/-- A transaction written into a unit of tables says what its verdict says, and if it passes
the unit sees it. -/
private theorem writeTransaction_engine (lawful : engine.Lawful holds sees) (guard : OverdraftGuard)
    {transaction : Transaction} (options : PostingOptions) (accounts : List Account)
    (recordedAt : Timestamp) (named : ∀ line ∈ transaction.lines, line.accountId ≠ EntityId.nil)
    {opened : υ} (seen : sees state opened book.tables) :
    ∃ outcome work tables,
      writeTransaction engine.store guard transaction options accounts recordedAt
        (state, ⟨opened, 0⟩) = (outcome, (state, work)) ∧
      OutcomesAlike (fun _ => False) Eq
        (book.ledger.writtenVerdict guard transaction options accounts) outcome ∧
      sees state work.opened tables ∧
      (outcome = .ok () → tables = (book.record ⟨transaction, recordedAt⟩).tables) := by
  unfold writeTransaction Ledger.writtenVerdict
  rw [Action.bind_apply, Action.mapError]
  by_cases taken : hasHeader book.ledger.headers transaction.id = true
  · rcases writeHeader_of_known lawful seen transaction.timestamp recordedAt taken with
      ⟨detail, after, refused, seen⟩
    rw [refused, if_pos taken]
    refine ⟨_, _, _, rfl, .error (.taken _ _), seen, fun passed => ?_⟩
    cases passed
  · rcases writeHeader_of_new lawful seen transaction.timestamp recordedAt taken with
      ⟨work, wrote, written⟩
    rw [wrote, if_neg taken]
    rcases transaction with ⟨id, timestamp, _ | ⟨first, rest⟩⟩
    · refine ⟨_, _, _, rfl, .rfl, written.seen, fun passed => ?_⟩
      cases passed
    · rcases (PostingRules.of guard ⟨id, timestamp, first :: rest⟩ options accounts
        first).writeLines_apply (keepsLines_engine lawful book id timestamp recordedAt)
        (first :: rest) written named with ⟨lines, after, run, written, complete⟩
      refine ⟨_, _, _, run, .rfl, written.seen, fun passed => ?_⟩
      rw [complete passed]
      rfl

/-- Posting on tables answers as the verdict of the ledger in memory does, and adds the
transaction exactly if it passes. -/
theorem post_engine (lawful : engine.Lawful holds sees) (sound : book.ledger.Sound)
    (held : holds state book.tables) (guard : OverdraftGuard) (transaction : Transaction)
    (options : PostingOptions) (recordedAt : Timestamp) :
    ∃ outcome after,
      (engine.operations guard).post transaction options recordedAt state = (outcome, after) ∧
      OutcomesAlike (fun id => book.ledger.balanceOf? id = none ∧ id ∈ transaction.touchedAccounts)
        Eq (book.ledger.verdict guard transaction options) outcome ∧
      holds after
        (match outcome with
        | .ok () => (book.record ⟨transaction, recordedAt⟩).tables
        | .error _ => book.tables) := by
  simp only [Engine.operations, postTransaction, Action.bind_apply, Action.mapError,
    Action.ofExcept, Ledger.verdict]
  rcases checked : transaction.checkFor options with fault | ⟨⟨⟩⟩
  · exact ⟨_, _, rfl, .rfl, held⟩
  · have shaped := Transaction.shaped_of_checkFor checked
    dsimp only
    rcases accountsById_engine lawful sound held transaction.touchedAccounts with
      ⟨resolved, between, resolves, resolvedAlike, stillHeld⟩
    rw [resolves]
    generalize book.ledger.accountsById transaction.touchedAccounts = inMemory at resolvedAlike ⊢
    cases resolvedAlike with
    | error alike => exact ⟨_, _, rfl, .error alike, stillHeld⟩
    | ok same =>
        rename_i accounts other
        cases same
        dsimp only
        cases firstMissing? transaction.touchedAccounts accounts with
        | some missing => exact ⟨_, _, rfl, .rfl, stillHeld⟩
        | none =>
            rcases lawful.begin stillHeld with ⟨opened, began, begins, beganHolds, beganSees⟩
            rcases writeTransaction_engine lawful guard options accounts recordedAt
              (fun line member => (shaped.lines line member).named) beganSees with
              ⟨outcome, work, written, run, writtenAlike, seen, complete⟩
            have alike : OutcomesAlike (fun id => book.ledger.balanceOf? id = none ∧
                id ∈ transaction.touchedAccounts) Eq
                (book.ledger.writtenVerdict guard transaction options accounts) outcome :=
              writtenAlike.mono (fun _ never => never.elim) fun _ _ same => same
            have unitBegins : (engine.store.begin.mapError LedgerFault.store) between =
                (.ok ⟨opened, 0⟩, began) := by
              simp only [Action.mapError, Engine.store, begins]
            simp only [Action.bind_apply, unitBegins, Action.attemptWith, run]
            rcases outcome with fault | ⟨⟨⟩⟩
            · rcases lawful.rollback beganHolds seen with ⟨discarded, after, rolled, afterHolds⟩
              have unitRolls : engine.store.rollback work began = (discarded, after) := rolled
              refine ⟨_, _, ?_, alike, afterHolds⟩
              simp only [Action.bind_apply, Action.attempt, unitRolls]
              rfl
            · rcases lawful.commit beganHolds seen with ⟨after, commits, afterHolds⟩
              rw [complete rfl] at afterHolds
              have unitCommits : ((engine.store.commit work).mapError LedgerFault.store) began =
                  (.ok (), after) := by
                simp only [Action.mapError, Engine.store, commits]
              exact ⟨_, _, unitCommits, alike, afterHolds⟩

end Book

end DepositLedger
