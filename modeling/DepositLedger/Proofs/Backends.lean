import DepositLedger.Proofs.Book.Posting
import DepositLedger.Proofs.Book.Transactions
import DepositLedger.Proofs.Calls
import DepositLedger.Proofs.Opening
import DepositLedger.Proofs.Reversal

/-! The ledger in memory and the ledger in a database that can be relied on, asked the same. A
run of calls leaves both with one book, and each call is answered by both alike. -/

namespace DepositLedger

open Memory Relational

namespace Book

/-- A step against both ways of keeping a book: it has the same outcome, and leaves both with
the next book, in which what the step has `recorded` comes last. -/
structure Turns {σ : Type} (book next : Book) (holds : σ → Tables → Prop)
    (recorded : Option Timestamp) {α : Type} (lost : AccountId → Prop) (same : α → α → Prop)
    (inMemory : Except LedgerFault α × Ledger) (inTables : Except LedgerFault α × σ) : Prop where
  kept : next.Kept
  recordings : next.entries.map (·.recordedAt) =
    book.entries.map (·.recordedAt) ++ recorded.toList
  ledger : inMemory.2 = next.ledger
  tables : holds inTables.2 next.tables
  alike : OutcomesAlike lost same inMemory.1 inTables.1

variable {book : Book} {σ υ : Type} {engine : Engine σ υ} {holds : σ → Tables → Prop}
  {sees : σ → υ → Tables → Prop} {state : σ}

private theorem recordings_record (entry : Entry) :
    (book.record entry).entries.map (·.recordedAt) =
      book.entries.map (·.recordedAt) ++ [entry.recordedAt] :=
  List.map_append

private theorem Kept.empty : ({} : Book).Kept where
  sound := .empty
  plain := fun _ member => nomatch member
  short := fun _ member => nomatch member

private theorem Kept.hold (kept : book.Kept) {customerId : CustomerId} {account : Account}
    (stored : book.ledger.addAccount customerId account =
      .ok (book.hold ⟨customerId, account⟩).ledger) :
    (book.hold ⟨customerId, account⟩).Kept where
  sound := kept.sound.addAccount stored
  plain := kept.plain
  short := kept.short

private theorem Kept.record {guard : OverdraftGuard} (kept : book.Kept) {transaction : Transaction}
    {options : PostingOptions} {recordedAt : Timestamp}
    (passed : book.ledger.verdict guard transaction options = .ok ())
    (plain : hasPlainYear transaction.timestamp = true ∧ hasPlainYear recordedAt = true)
    (short : transaction.lines.length ≤ positionCount) :
    (book.record ⟨transaction, recordedAt⟩).Kept where
  sound := by
    rw [ledger_record]
    exact kept.sound.posted (kept.sound.verdict_ok_iff_accepts.mp passed)
  plain := List.forall_mem_append.mpr ⟨kept.plain, List.forall_mem_singleton.mpr plain⟩
  short := List.forall_mem_append.mpr ⟨kept.short, List.forall_mem_singleton.mpr short⟩

private theorem Kept.short_of_found (kept : book.Kept) {id : TransactionId} {posted : Transaction}
    (found : book.ledger.transaction? id = some posted) : posted.lines.length ≤ positionCount := by
  have member := ((book.ledger_holds.transaction?_eq_some_iff kept.sound).mp found).1
  rcases List.mem_map.mp member with ⟨entry, stored, rfl⟩
  exact kept.short entry stored

/-- A step that changes nothing. -/
private theorem Kept.stays (kept : book.Kept) {α : Type} {lost : AccountId → Prop}
    {same : α → α → Prop} {answer answerTables : Except LedgerFault α}
    (alike : OutcomesAlike lost same answer answerTables) (held : holds state book.tables) :
    book.Turns book holds none lost same (answer, book.ledger) (answerTables, state) where
  kept := kept
  recordings := (List.append_nil _).symm
  ledger := rfl
  tables := held
  alike := alike

private theorem Kept.post (kept : book.Kept) (lawful : engine.Lawful holds sees)
    (held : holds state book.tables) (guard : OverdraftGuard) (transaction : Transaction)
    (options : PostingOptions) (recordedAt : Timestamp)
    (plain : hasPlainYear transaction.timestamp = true ∧ hasPlainYear recordedAt = true)
    (short : transaction.lines.length ≤ positionCount) :
    ∃ next, book.Turns next holds
      ((book.ledger.accepted? guard transaction options recordedAt).bind fun _ => some recordedAt)
      (fun id => book.ledger.balanceOf? id = none ∧ id ∈ transaction.touchedAccounts) Eq
      ((Memory.operations guard).post transaction options recordedAt book.ledger)
      ((engine.operations guard).post transaction options recordedAt state) := by
  rcases post_engine lawful kept.sound held guard transaction options recordedAt with
    ⟨outcome, after, run, alike, held⟩
  rw [Ledger.accepted?, Ledger.post_apply, run]
  rcases passed : book.ledger.verdict guard transaction options with fault | ⟨⟨⟩⟩
  · rw [passed] at alike
    cases alike with
    | error alike => exact ⟨book, kept.stays (.error alike) held⟩
  · rw [passed] at alike
    cases alike with
    | ok =>
        refine ⟨book.record ⟨transaction, recordedAt⟩, kept.record passed plain short,
          recordings_record _, ?_, held, .ok rfl⟩
        rw [ledger_record]

private theorem Turns.map {next : Book} {recorded : Option Timestamp} {α β : Type}
    {lost wider : AccountId → Prop} {same : α → α → Prop} {other : β → β → Prop}
    {inMemory : Except LedgerFault α × Ledger} {inTables : Except LedgerFault α × σ}
    (turns : book.Turns next holds recorded lost same inMemory inTables) {make : α → β}
    (lostWider : ∀ id, lost id → wider id)
    (made : ∀ answer answer', same answer answer' → other (make answer) (make answer')) :
    book.Turns next holds recorded wider other (inMemory.1.map make, inMemory.2)
      (inTables.1.map make, inTables.2) where
  kept := turns.kept
  recordings := turns.recordings
  ledger := turns.ledger
  tables := turns.tables
  alike := (turns.alike.map made).mono lostWider fun _ _ alike => alike

private theorem Kept.addAccount (kept : book.Kept) (lawful : engine.Lawful holds sees)
    (held : holds state book.tables) (guard : OverdraftGuard) (customerId : CustomerId)
    (account : Account) :
    ∃ next, book.Turns next holds none (fun _ => False) Eq
      ((Memory.operations guard).addAccount customerId account book.ledger)
      ((engine.operations guard).addAccount customerId account state) := by
  have inTables : (engine.operations guard).addAccount customerId account state =
      engine.addAccount customerId account state := rfl
  rw [addAccount_apply, inTables]
  rcases addAccount_cases lawful held customerId account with
    ⟨fault, other, after, alike, refused, otherRefused, held⟩ |
      ⟨stored, after, otherStored, held⟩
  · rw [refused, otherRefused]
    exact ⟨book, kept.stays (.error alike) held⟩
  · rw [stored, otherStored]
    exact ⟨book.hold ⟨customerId, account⟩, kept.hold stored, (List.append_nil _).symm, rfl, held,
      .ok rfl⟩

private theorem Kept.reverse (kept : book.Kept) (lawful : engine.Lawful holds sees)
    (held : holds state book.tables) (guard : OverdraftGuard) (id : TransactionId)
    (stamp : Stamp)
    (plain : hasPlainYear stamp.timestamp = true ∧ hasPlainYear stamp.recordedAt = true) :
    ∃ next, book.Turns next holds
      ((book.ledger.acceptedBy? guard (.reverse id stamp)).bind fun _ => some stamp.recordedAt)
      (fun accountId => book.ledger.balanceOf? accountId = none ∧
        accountId ∈ (Call.change (.reverse id stamp)).consulted book.ledger) Eq
      ((Memory.operations guard).reverse id stamp book.ledger)
      ((engine.operations guard).reverse id stamp state) := by
  rcases transaction?_engine lawful kept held id with ⟨between, read, held⟩
  have inTables : (engine.operations guard).transaction? id state =
      (.ok (book.ledger.transaction? id), between) := read
  have inMemory : (Memory.operations guard).transaction? id book.ledger =
      (.ok (book.ledger.transaction? id), book.ledger) := rfl
  rw [Ledger.acceptedBy?, Call.consulted]
  cases found : book.ledger.transaction? id with
  | none =>
      rw [found] at inMemory inTables
      rw [Operations.reverse_of_none inMemory, Operations.reverse_of_none inTables]
      exact ⟨book, kept.stays .rfl held⟩
  | some posted =>
      rw [found] at inMemory inTables
      rw [Operations.reverse_of_some inMemory, Operations.reverse_of_some inTables]
      have short : (posted.reversal stamp.id stamp.timestamp).lines.length ≤ positionCount := by
        rw [Transaction.reversal, List.length_map]
        exact kept.short_of_found found
      rcases kept.post lawful held guard (posted.reversal stamp.id stamp.timestamp) {}
        stamp.recordedAt plain short with ⟨next, turns⟩
      refine ⟨next, turns.map (fun accountId lost => ?_) fun _ _ _ => rfl⟩
      rw [posted.touchedAccounts_reversal] at lost
      exact lost

private theorem Kept.openWithDeposit (kept : book.Kept) (lawful : engine.Lawful holds sees)
    (held : holds state book.tables) (guard : OverdraftGuard)
    (customerId : CustomerId) (account : Account) (amount : Cents) (stamp : Stamp)
    (plain : hasPlainYear stamp.timestamp = true ∧ hasPlainYear stamp.recordedAt = true) :
    ∃ next, book.Turns next holds
      ((book.ledger.acceptedBy? guard (.openAccount customerId account amount stamp)).bind
        fun _ => some stamp.recordedAt)
      (fun id => book.ledger.balanceOf? id = none ∧ id ∈ [account.id]) Eq
      ((Memory.operations guard).openWithDeposit customerId account amount stamp book.ledger)
      ((engine.operations guard).openWithDeposit customerId account amount stamp state) := by
  rw [kept.sound.openWithDeposit_apply, Ledger.acceptedBy?]
  rcases addAccount_cases lawful held customerId account with
    ⟨fault, other, after, alike, refused, otherRefused, held⟩ |
      ⟨stored, between, otherStored, held⟩
  · have inTables : (engine.operations guard).addAccount customerId account state =
        (.error other, after) := otherRefused
    rw [refused, Operations.openWithDeposit_of_refused inTables]
    exact ⟨book, kept.stays (.error (alike.mono fun _ never => never.elim)) held⟩
  · have inTables : (engine.operations guard).addAccount customerId account state =
        (.ok (), between) := otherStored
    have holdKept := kept.hold stored
    let deposit := Operations.openingDeposit account amount stamp
    rcases post_engine lawful holdKept.sound held guard deposit { initialDeposit := true }
      stamp.recordedAt with ⟨outcome, posted, run, alike, held⟩
    rw [stored]
    dsimp only
    rw [Ledger.accepted?, Ledger.post_apply]
    rcases passed : (book.hold ⟨customerId, account⟩).ledger.verdict guard deposit
      { initialDeposit := true } with fault | ⟨⟨⟩⟩
    · rw [passed] at alike
      cases alike with
      | error alike =>
          rw [Operations.openWithDeposit_of_not_posted inTables run]
          exact ⟨_, holdKept, (List.append_nil _).symm, rfl, held,
            .error (alike.mono fun id lost => lost)⟩
    · rw [passed] at alike
      cases alike with
      | ok =>
          have nextKept : ((book.hold ⟨customerId, account⟩).record
              ⟨deposit, stamp.recordedAt⟩).Kept :=
            holdKept.record passed plain (by decide : 1 ≤ positionCount)
          have shown := kept.sound.accountsById_openingDeposit stored
            (holdKept.sound.verdict_ok_iff_accepts.mp passed)
          rcases accountsById_engine lawful nextKept.sound held [account.id] with
            ⟨answer, after, read, answered, held⟩
          rw [ledger_record, shown] at answered
          cases answered with
          | ok same =>
              cases same
              rw [Operations.openWithDeposit_of_posted inTables run read]
              refine ⟨_, nextKept, recordings_record _, ?_, held, .ok rfl⟩
              rw [ledger_record]

/-- A step whose answer is told as the answer to a call. -/
private theorem Turns.answered {next : Book} {recorded : Option Timestamp} {α : Type}
    {lost wider : AccountId → Prop} {same : α → α → Prop}
    {inMemory : Action Ledger LedgerFault α} {inTables : Action σ LedgerFault α}
    (turns : book.Turns next holds recorded lost same (inMemory book.ledger) (inTables state))
    {make : α → Answer} (lostWider : ∀ id, lost id → wider id)
    (made : ∀ answer answer', same answer answer' → (make answer).Alike (make answer')) :
    book.Turns next holds recorded wider Answer.Alike
      ((inMemory >>= fun answer => pure (make answer)) book.ledger)
      ((inTables >>= fun answer => pure (make answer)) state) := by
  rw [Action.bind_pure_apply, Action.bind_pure_apply]
  exact turns.map lostWider made

/-- A request turns the book alike for both ways of keeping it. -/
private theorem Kept.change (kept : book.Kept) (lawful : engine.Lawful holds sees)
    (held : holds state book.tables) (guard : OverdraftGuard) (request : Memory.Request)
    (plain : ∀ time ∈ request.times, hasPlainYear time = true)
    (short : request.lineCount ≤ positionCount) :
    ∃ next, book.Turns next holds ((Call.change request).recordedAt? guard book.ledger)
      (fun id => book.ledger.balanceOf? id = none ∧
        id ∈ (Call.change request).consulted book.ledger) Answer.Alike
      ((Memory.operations guard).change request book.ledger)
      ((engine.operations guard).change request state) := by
  cases request with
  | addAccount customerId account =>
      rcases kept.addAccount lawful held guard customerId account with ⟨next, turns⟩
      exact ⟨next, turns.answered (fun _ never => never.elim) fun _ _ _ => .same _⟩
  | openAccount customerId account amount stamp =>
      have plain : hasPlainYear stamp.timestamp = true ∧ hasPlainYear stamp.recordedAt = true := by
        simpa [Request.times] using plain
      rcases kept.openWithDeposit lawful held guard customerId account amount stamp plain with
        ⟨next, turns⟩
      exact ⟨next, turns.answered (fun _ lost => lost) fun _ _ same => same ▸ .same _⟩
  | post transaction options recordedAt =>
      have plain : hasPlainYear transaction.timestamp = true ∧ hasPlainYear recordedAt = true := by
        simpa [Request.times] using plain
      rcases kept.post lawful held guard transaction options recordedAt plain short with
        ⟨next, turns⟩
      exact ⟨next, turns.answered (fun _ lost => lost) fun _ _ _ => .same _⟩
  | reverse id stamp =>
      have plain : hasPlainYear stamp.timestamp = true ∧ hasPlainYear stamp.recordedAt = true := by
        simpa [Request.times] using plain
      rcases kept.reverse lawful held guard id stamp plain with ⟨next, turns⟩
      exact ⟨next, turns.answered (fun _ lost => lost) fun _ _ same => same ▸ .same _⟩

/-- What is read in memory and what is read in tables are alike, and both stay. -/
private theorem Kept.read (kept : book.Kept) {α : Type} {lost : AccountId → Prop}
    {same : α → α → Prop} {inMemory : Action Ledger LedgerFault α}
    {inTables : Action σ LedgerFault α} {answer answerTables : Except LedgerFault α} {after : σ}
    (readMemory : inMemory book.ledger = (answer, book.ledger))
    (readTables : inTables state = (answerTables, after))
    (alike : OutcomesAlike lost same answer answerTables) (held : holds after book.tables) :
    book.Turns book holds none lost same (inMemory book.ledger) (inTables state) := by
  rw [readMemory, readTables]
  exact kept.stays alike held

/-- A query is answered alike from both ways of keeping a book. The order of transactions
of one time is that of their recordings, which must have grown. -/
private theorem Kept.ask (kept : book.Kept) (lawful : engine.Lawful holds sees)
    (held : holds state book.tables) (guard : OverdraftGuard) (query : Query)
    (increasing : (book.entries.map (·.recordedAt)).Pairwise fun earlier later =>
      earlier.ordinal < later.ordinal) :
    book.Turns book holds none
      (fun id => book.ledger.balanceOf? id = none ∧
        id ∈ (Call.ask query).consulted book.ledger) Answer.Alike
      ((Memory.operations guard).ask query book.ledger)
      ((engine.operations guard).ask query state) := by
  cases query with
  | accounts ids =>
      rcases accountsById_engine lawful kept.sound held ids with ⟨answer, after, run, alike, held⟩
      exact (kept.read rfl run alike held).answered
        (fun _ lost => lost) fun _ _ same => same ▸ .same _
  | accountsOfCustomer customerId =>
      rcases accountsOfCustomer_engine lawful kept.sound held customerId with
        ⟨answer, after, run, alike, held⟩
      refine (kept.read rfl run alike held).answered (fun id lost => ?_) fun _ _ perm =>
        .reordered perm
      rcases lost with ⟨none, account, stored, owned, same⟩
      refine ⟨none, List.mem_map.mpr ⟨account, List.mem_filter.mpr ⟨stored, ?_⟩, same⟩⟩
      rw [owned, beq_self_eq_true]
  | findAccount accountNumber routingNumber accountType =>
      rcases accountNumbered_engine lawful kept.sound held accountNumber routingNumber
        accountType with ⟨after, run, held⟩
      exact (kept.read rfl run .rfl held).answered
        (fun _ lost => lost) fun _ _ same => same ▸ .same _
  | findTransaction id =>
      rcases transaction?_engine lawful kept held id with ⟨after, run, held⟩
      exact (kept.read rfl run .rfl held).answered
        (fun _ lost => lost) fun _ _ same => same ▸ .same _
  | history accountId =>
      rw [List.pairwise_map] at increasing
      rcases history_engine lawful kept increasing held accountId with
        ⟨answer, after, run, rfl, held⟩
      exact (kept.read rfl run .rfl held).answered
        (fun _ lost => lost) fun _ _ same => same ▸ .same _

/-- A call turns the book alike for both ways of keeping it. -/
theorem Kept.answer (kept : book.Kept) (lawful : engine.Lawful holds sees)
    (held : holds state book.tables) (guard : OverdraftGuard) (call : Call)
    (plain : ∀ time ∈ call.times, hasPlainYear time = true) (short : call.lineCount ≤ positionCount)
    (increasing : (book.entries.map (·.recordedAt)).Pairwise fun earlier later =>
      earlier.ordinal < later.ordinal) :
    ∃ next, book.Turns next holds (call.recordedAt? guard book.ledger)
      (fun id => book.ledger.balanceOf? id = none ∧ id ∈ call.consulted book.ledger) Answer.Alike
      ((Memory.operations guard).answer call book.ledger)
      ((engine.operations guard).answer call state) := by
  cases call with
  | change request => exact kept.change lawful held guard request plain short
  | ask query => exact ⟨book, kept.ask lawful held guard query increasing⟩

end Book

section

variable {σ υ : Type} {engine : Engine σ υ} {holds : σ → Tables → Prop}
  {sees : σ → υ → Tables → Prop} {start : σ}

/-- A run of calls leaves both backends with one book. -/
theorem exists_book (lawful : engine.Lawful holds sees) (empty : holds start {})
    (guard : OverdraftGuard) (calls : List Call)
    (plain : ∀ call ∈ calls, ∀ time ∈ call.times, hasPlainYear time = true)
    (short : ∀ call ∈ calls, call.lineCount ≤ positionCount)
    (increasing : (recordings guard calls).Pairwise fun earlier later =>
      earlier.ordinal < later.ordinal) :
    ∃ book : Book, book.Kept ∧
      (Memory.operations guard).left calls {} = book.ledger ∧
      holds ((engine.operations guard).left calls start) book.tables ∧
      book.entries.map (·.recordedAt) = recordings guard calls := by
  induction calls using List.reverseRecOn with
  | nil => exact ⟨{}, .empty, rfl, empty, rfl⟩
  | append_singleton calls call induction =>
      rw [List.forall_mem_append, List.forall_mem_singleton] at plain short
      rw [recordings_concat] at increasing
      have before := (List.pairwise_append.mp increasing).1
      rcases induction plain.1 short.1 before with ⟨book, kept, ledger, held, recorded⟩
      rw [← recorded] at before
      rcases kept.answer lawful held guard call plain.2 short.2 before with ⟨next, turns⟩
      rw [Operations.left_concat, Operations.left_concat, recordings_concat, ledger, ← recorded]
      exact ⟨next, turns.kept, turns.ledger, turns.tables, turns.recordings⟩

/-- On a ledger in memory and on any database that can be relied on, started empty and asked the
same in the same order, each call has the same outcome: the same answer or the same fault. A
posting may have as many lines as there are positions. -/
theorem outcomes_alike (lawful : engine.Lawful holds sees) (empty : holds start {})
    (guard : OverdraftGuard) (calls : List Call)
    (plain : ∀ call ∈ calls, ∀ time ∈ call.times, hasPlainYear time = true)
    (short : ∀ call ∈ calls, call.lineCount ≤ positionCount)
    (increasing : (recordings guard calls).Pairwise fun earlier later =>
      earlier.ordinal < later.ordinal)
    (earlier : List Call) (call : Call) (part : earlier ++ [call] <+: calls) :
    let ledger := (Memory.operations guard).left earlier {}
    let database := (engine.operations guard).left earlier start
    OutcomesAlike (fun id => ledger.balanceOf? id = none ∧ id ∈ call.consulted ledger)
      Answer.Alike ((Memory.operations guard).answer call ledger).1
      ((engine.operations guard).answer call database).1 := by
  intro ledger database
  rcases part with ⟨later, rfl⟩
  simp only [List.forall_mem_append, List.forall_mem_singleton] at plain short
  rw [recordings, List.append_assoc, recordingsFrom_append] at increasing
  have before := (List.pairwise_append.mp increasing).1
  rcases exists_book lawful empty guard earlier plain.1.1 short.1.1 before with
    ⟨book, kept, ledgerIs, held, recorded⟩
  have ledgerIs : ledger = book.ledger := ledgerIs
  rw [← recordings, ← recorded] at before
  rcases kept.answer lawful held guard call plain.1.2 short.1.2 before with ⟨next, turns⟩
  rw [ledgerIs]
  exact turns.alike

end

/-- A transfer between two accounts that is undone. -/
def undoneTransfer : List Call :=
  [.change (addSample 11 "121042882"), .change (addSample 12 "121042882"),
    .change (.post sampleTransfer {} (.microsecondsInto2050 2)),
    .change (.reverse sampleTransfer.id sampleStamp)]

def lookBack : Call := .ask (.history ⟨.ofNat 11⟩)

theorem outcomes_alike_undoneTransfer :
    let calls := undoneTransfer ++ [lookBack]
    let ledger := (Memory.operations sampleGuard).left undoneTransfer {}
    let database := (Database.engine.operations sampleGuard).left undoneTransfer {}
    (∀ call ∈ calls, ∀ time ∈ call.times, hasPlainYear time = true) ∧
    (∀ call ∈ calls, call.lineCount ≤ positionCount) ∧
    recordings sampleGuard calls = [.microsecondsInto2050 2, .microsecondsInto2050 4] ∧
    OutcomesAlike (fun id => ledger.balanceOf? id = none ∧ id ∈ lookBack.consulted ledger)
      Answer.Alike ((Memory.operations sampleGuard).answer lookBack ledger).1
      ((Database.engine.operations sampleGuard).answer lookBack database).1 := by
  intro calls ledger database
  have plain : ∀ call ∈ calls, ∀ time ∈ call.times, hasPlainYear time = true := by decide
  have short : ∀ call ∈ calls, call.lineCount ≤ positionCount := by decide
  have recorded : recordings sampleGuard calls =
      [.microsecondsInto2050 2, .microsecondsInto2050 4] := by decide
  have increasing : (recordings sampleGuard calls).Pairwise fun earlier later =>
      earlier.ordinal < later.ordinal := by
    rw [recorded]
    decide
  exact ⟨plain, short, recorded, outcomes_alike Database.engine_lawful rfl sampleGuard calls plain
    short increasing undoneTransfer lookBack (List.prefix_refl _)⟩

end DepositLedger
