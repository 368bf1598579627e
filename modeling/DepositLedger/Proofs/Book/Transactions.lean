import DepositLedger.Proofs.Book.Accounts

/-! Transactions of a book read back. In memory they stand in the order they were committed;
tables sort them by their times and, where these are equal, by when they were recorded, and
put the lines of each back in the order of their positions. -/

namespace DepositLedger

open Memory Relational

/-- The lines of a transaction have positions in their order, as long as there are enough
of these. -/
private theorem Entry.positions_increase {entry : Entry}
    (short : entry.transaction.lines.length ≤ positionCount) :
    entry.placed.Pairwise fun first second => first.row.position < second.row.position := by
  rw [placed, List.pairwise_iff_getElem]
  intro first second firstBound secondBound before
  have last : second < positionCount := by
    have count : entry.transaction.kept.length = entry.transaction.lines.length :=
      List.length_map _
    rw [List.length_zipIdx, count] at secondBound
    omega
  simpa [PlacedLine.row] using positionAfter_lt before last

namespace Book

variable {book : Book} {σ υ : Type} {engine : Engine σ υ} {holds : σ → Tables → Prop}
  {sees : σ → υ → Tables → Prop} {state : σ} {opened : υ}

private theorem nodup_entries (sound : book.ledger.Sound) :
    (book.entries.map fun entry => entry.transaction.id).Nodup := by
  have distinct := book.ledger_holds.nodup_ids sound
  rw [journal, List.map_map] at distinct
  exact distinct

/-- Sorted by position with the lines of others, the lines of a transaction are in their order. -/
private theorem filter_inOrder (sound : book.ledger.Sound) {entry : Entry}
    (member : entry ∈ book.entries)
    (short : entry.transaction.lines.length ≤ positionCount) {ids : List TransactionId}
    (listed : entry.transaction.id ∈ ids) {sorted : List PlacedLine}
    (perm : sorted.Perm (book.placed.filter fun placed => ids.contains placed.1.transactionId))
    (inOrder : sorted.Pairwise fun first second => first.row.position ≤ second.row.position) :
    sorted.filter (fun placed => placed.1.transactionId == entry.transaction.id) =
      entry.placed := by
  have own : book.placed.filter (fun placed =>
      placed.1.transactionId == entry.transaction.id) = entry.placed := by
    apply filter_flatMap_key (nodup_entries sound) _ member
    intro other placed placedMember
    have kept := List.mem_map_of_mem (f := Prod.fst) placedMember
    rw [Entry.placed, List.zipIdx_map_fst] at kept
    exact (mem_keepLines.mp kept).1
  have ownPerm : (sorted.filter fun placed =>
      placed.1.transactionId == entry.transaction.id).Perm entry.placed := by
    refine (perm.filter _).trans (List.Perm.of_eq ?_)
    rw [List.filter_filter, ← own]
    apply List.filter_congr
    intro placed _
    cases same : placed.1.transactionId == entry.transaction.id with
    | false => rfl
    | true => rw [beq_iff_eq.mp same, List.contains_iff_mem.mpr listed, Bool.and_self]
  have increase := Entry.positions_increase short
  have distinct : (entry.placed.map fun placed => placed.row.position).Nodup :=
    List.pairwise_map.mpr (increase.imp Int32.ne_of_lt)
  refine List.Perm.eq_of_pairwise ?_ (inOrder.filter _) (increase.imp Int32.le_of_lt) ownPerm
  intro first second firstMember secondMember firstLe secondLe
  exact List.inj_on_of_nodup_map distinct (ownPerm.mem_iff.mp firstMember) secondMember
    (Int32.le_antisymm firstLe secondLe)

/-- The lines that were read for a transaction, if they were found in order. -/
private theorem lines_of_filter {entry : Entry} {sorted : List PlacedLine}
    (own : sorted.filter (fun placed => placed.1.transactionId == entry.transaction.id) =
      entry.placed) :
    ((sorted.map fun placed => (placed.1.transactionId, placed.1.line)).filter
      (·.1 == entry.transaction.id)).map (·.2) = entry.transaction.lines := by
  rw [List.filter_map, List.map_map, ← entry.transaction.map_line_kept,
    ← List.zipIdx_map_fst 0 entry.transaction.kept, List.map_map]
  exact congrArg (List.map _) own

private theorem transactionsIn_engine (lawful : engine.Lawful holds sees) (kept : book.Kept)
    (seen : sees state opened book.tables) (ids : List TransactionId) :
    ∃ sorted : List Entry,
      engine.transactionsIn ids opened = .ok (sorted.map (·.transaction)) ∧
      sorted.Perm (book.entries.filter fun entry => ids.contains entry.transaction.id) ∧
      sorted.Pairwise fun first second =>
        latestFirst (·.transaction.timestamp) Entry.recordedAt first second = true := by
  rw [Engine.transactionsIn]
  cases noIds : ids.isEmpty with
  | true =>
      rw [List.isEmpty_iff.mp noIds]
      refine ⟨[], rfl, ?_, .nil⟩
      simp
  | false =>
      rcases lawful.transactions ids seen (by
        intro row member
        rcases List.mem_map.mp member with ⟨entry, stored, rfl⟩
        exact kept.plain entry stored) with ⟨headers, headersListed, headersPerm, latest⟩
      rcases lawful.lines ids seen with ⟨rows, rowsListed, rowsPerm, inOrder⟩
      have entriesMeeting : book.tables.transactions.filter (fun row =>
          !row.deleted && ids.contains row.id) =
            (book.entries.filter fun entry => ids.contains entry.transaction.id).map Entry.row := by
        rw [tables, List.filter_map]
        rfl
      have placedMeeting : book.tables.lines.filter (fun row =>
          !row.deleted && ids.contains row.transactionId) =
            (book.placed.filter fun placed => ids.contains placed.1.transactionId).map
              PlacedLine.row := by
        rw [tables, List.filter_map]
        rfl
      rw [entriesMeeting] at headersPerm
      rw [placedMeeting] at rowsPerm
      rcases exists_of_perm_map headersPerm with ⟨entries, rfl, entriesPerm⟩
      rcases exists_of_perm_map rowsPerm with ⟨lines, rfl, linesPerm⟩
      rw [List.pairwise_map] at latest inOrder
      refine ⟨entries, ?_, entriesPerm, latest⟩
      have read : (fun row : LineRow => row.read.map fun line => (row.transactionId, line)) ∘
          PlacedLine.row = fun placed => pure (placed.1.transactionId, placed.1.line) := by
        funext placed
        rw [Function.comp_apply, placed.read_row]
        rfl
      rw [headersListed, rowsListed, if_neg Bool.false_ne_true]
      simp only [List.mapM_map, read, List.mapM_pure]
      apply congrArg Except.ok
      rw [List.map_map]
      apply List.map_congr_left
      intro entry entryMember
      rcases List.mem_filter.mp (entriesPerm.mem_iff.mp entryMember) with ⟨member, listed⟩
      have own := filter_inOrder kept.sound member (kept.short entry member)
        (List.contains_iff_mem.mp listed) linesPerm inOrder
      simp only [Function.comp_apply, Entry.row, lines_of_filter own]

theorem transaction?_engine (lawful : engine.Lawful holds sees) (kept : book.Kept)
    (held : holds state book.tables) (id : TransactionId) :
    ∃ after, engine.transaction? id state = (.ok (book.ledger.transaction? id), after) ∧
      holds after book.tables := by
  let named (entry : Entry) : Bool := [id].contains entry.transaction.id
  have few : book.entries.filter named = [] ∨ ∃ entry, book.entries.filter named = [entry] := by
    apply filter_eq_nil_or_singleton (nodup_entries kept.sound)
    intro entry listed
    exact List.mem_singleton.mp (List.contains_iff_mem.mp listed)
  have found : book.ledger.transaction? id =
      (book.entries.filter named).head?.map (·.transaction) := by
    rw [book.ledger_holds.transaction?_eq kept.sound, journal, List.find?_map, List.head?_filter]
    congr 2
    funext entry
    rw [Bool.eq_iff_iff, List.contains_iff_mem, List.mem_singleton]
    exact beq_iff_eq
  have reads : ∃ outcome after,
      engine.reading (engine.transactionsIn [id]) state = (outcome, after) ∧
      outcome.map (·.head?) = .ok (book.ledger.transaction? id) ∧ holds after book.tables := by
    refine lawful.reading held fun {began opened} seen => ?_
    rcases transactionsIn_engine lawful kept seen [id] with ⟨sorted, read, perm, _⟩
    rw [read, found]
    change sorted.Perm (book.entries.filter named) at perm
    rcases few with none | ⟨entry, single⟩
    · rw [none] at perm ⊢
      rw [perm.eq_nil]
      rfl
    · rw [single] at perm ⊢
      rw [List.perm_singleton.mp perm]
      rfl
  rcases reads with ⟨outcome, after, run, read, held⟩
  refine ⟨after, ?_, held⟩
  rw [Engine.transaction?, Action.bind_pure_apply, run, read]

/-- The rows of lines on an account name the transactions that touch it. -/
private theorem touches_iff_row (sound : book.ledger.Sound) {entry : Entry}
    (member : entry ∈ book.entries) (accountId : AccountId) :
    entry.transaction.touches accountId = true ↔
      ∃ row ∈ book.tables.lines, row.deleted = false ∧ row.accountId = accountId ∧
        row.transactionId = entry.transaction.id := by
  have named : (∃ row ∈ book.tables.lines, row.deleted = false ∧ row.accountId = accountId ∧
      row.transactionId = entry.transaction.id) ↔
        entry.transaction.id ∈ (book.journal.filter (·.touches accountId)).map (·.id) := by
    rw [← book.ledger_holds.ids_on_account sound accountId, lines_ledger]
    simp [tables, PlacedLine.row, and_assoc]
  rw [named, List.mem_map]
  have stored : entry.transaction ∈ book.journal := List.mem_map_of_mem member
  constructor
  · intro touches
    exact ⟨_, List.mem_filter.mpr ⟨stored, touches⟩, rfl⟩
  · intro found
    rcases found with ⟨other, otherMember, same⟩
    rcases List.mem_filter.mp otherMember with ⟨otherStored, touches⟩
    rw [← List.inj_on_of_nodup_map (book.ledger_holds.nodup_ids sound) otherStored stored same]
    exact touches

theorem history_engine (lawful : engine.Lawful holds sees) (kept : book.Kept)
    (increasing : book.entries.Pairwise fun earlier later =>
      earlier.recordedAt.ordinal < later.recordedAt.ordinal)
    (held : holds state book.tables) (accountId : AccountId) :
    ∃ outcome after, engine.history accountId state = (outcome, after) ∧
      outcome = .ok (book.ledger.history accountId) ∧ holds after book.tables := by
  refine lawful.reading held fun {began opened} seen => ?_
  let touching := book.entries.filter fun entry => entry.transaction.touches accountId
  rcases lawful.transactionsOn accountId seen with ⟨ids, idsListed, onAccount⟩
  rcases transactionsIn_engine lawful kept seen ids with ⟨sorted, read, perm, latest⟩
  have listed : ∀ entry ∈ book.entries,
      ids.contains entry.transaction.id = entry.transaction.touches accountId := by
    intro entry member
    rw [Bool.eq_iff_iff, List.contains_iff_mem, onAccount,
      touches_iff_row kept.sound member accountId]
  rw [List.filter_congr listed] at perm
  have inMemory : book.ledger.history accountId = sorted.map (·.transaction) := by
    rw [book.ledger_holds.history_eq kept.sound, journal, List.filter_map, ← List.map_reverse,
      ← mergeSort_eq_of_latestFirst (increasing.sublist List.filter_sublist) perm latest]
    symm
    apply List.map_mergeSort
    intro first _ second _
    rfl
  rw [idsListed]
  dsimp only
  rw [read, inMemory]

end Book

end DepositLedger
