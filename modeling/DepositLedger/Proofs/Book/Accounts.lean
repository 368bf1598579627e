import DepositLedger.Proofs.Alike
import DepositLedger.Proofs.Book
import DepositLedger.Proofs.Engine

/-! Accounts of a book read back. Both ways of keeping it add up the same movements and
look at the same accounts. They go through these in different orders, so that where several
balances cannot be computed they may stop at different accounts. -/

namespace DepositLedger

open Memory Relational

namespace Memory.Ledger

variable {ledger : Ledger} {accounts sorted : List Account}

/-- Accounts that are read in two orders. -/
private theorem readAll_alike (members : ∀ account, account ∈ accounts ↔ account ∈ sorted) :
    OutcomesAlike (fun id => ledger.balanceOf? id = none ∧ ∃ account ∈ accounts, account.id = id)
      (fun read readSorted => read = accounts.map ledger.shown ∧
        readSorted = sorted.map ledger.shown)
      (accounts.mapM ledger.readAccount) (sorted.mapM ledger.readAccount) := by
  by_cases computable : ∀ account ∈ accounts, (ledger.balanceOf? account.id).isSome
  · rw [readAll_of_computable computable, readAll_of_computable fun account member =>
      computable account ((members account).mpr member)]
    exact .ok ⟨rfl, rfl⟩
  · have lost : ∃ account ∈ accounts, ledger.balanceOf? account.id = none := by
      simpa using computable
    have lostSorted : ∃ account ∈ sorted, ledger.balanceOf? account.id = none := by
      rcases lost with ⟨account, member, none⟩
      exact ⟨account, (members account).mp member, none⟩
    rcases readAll_of_lost lost with ⟨account, member, none, read⟩
    rcases readAll_of_lost lostSorted with ⟨other, otherMember, otherNone, readSorted⟩
    rw [read, readSorted]
    exact .error (.lost ⟨none, account, member, rfl⟩
      ⟨otherNone, other, (members other).mpr otherMember, rfl⟩)

private theorem findAccount_eq_head? (ledger : Ledger) (accountNumber routingNumber : String)
    (accountType : AccountType) :
    ledger.findAccount accountNumber routingNumber accountType =
      match (ledger.accounts.filter fun account => account.accountNumber == accountNumber &&
        account.routingNumber == routingNumber && account.accountType == accountType).head? with
      | none => .ok none
      | some account => (ledger.readAccount account).map some := by
  rw [List.head?_filter]
  rfl

/-- Each account that is looked for by its identifier is found in the same rows. -/
private theorem Sound.find?_eq_account? (sound : ledger.Sound) {ids : List AccountId}
    (perm : sorted.Perm (ledger.accounts.filter fun account => ids.contains account.id))
    {id : AccountId} (listed : id ∈ ids) : sorted.find? (·.id == id) = ledger.account? id := by
  have distinct : (sorted.map (·.id)).Nodup := by
    rw [(perm.map _).nodup_iff]
    exact sound.accountIds.sublist (List.filter_sublist.map _)
  apply Option.ext
  intro account
  rw [account?, find?_key_eq_some_iff distinct, find?_key_eq_some_iff sound.accountIds,
    perm.mem_iff, List.mem_filter, List.contains_iff_mem]
  constructor
  · intro holds
    exact ⟨holds.1.1, holds.2⟩
  · intro holds
    exact ⟨⟨holds.1, holds.2 ▸ listed⟩, holds.2⟩

end Memory.Ledger

namespace Book

variable {book : Book} {σ υ : Type} {engine : Engine σ υ} {holds : σ → Tables → Prop}
  {sees : σ → υ → Tables → Prop} {state : σ} {opened : υ}

/-- Accounts that were looked for by their identifiers are answered in the order of these,
whichever order they were read in. -/
private theorem accountsById_alike (sound : book.ledger.Sound) {ids : List AccountId}
    {sorted : List Account}
    (perm : sorted.Perm (book.ledger.accounts.filter fun account => ids.contains account.id)) :
    OutcomesAlike (fun id => book.ledger.balanceOf? id = none ∧ id ∈ ids) Eq
      (book.ledger.accountsById ids)
      ((sorted.mapM book.ledger.readAccount).map fun found =>
        ids.filterMap fun id => found.find? (·.id == id)) := by
  have members (account : Account) :
      account ∈ ids.filterMap book.ledger.account? ↔ account ∈ sorted := by
    rw [perm.mem_iff, List.mem_filterMap, List.mem_filter, List.contains_iff_mem]
    constructor
    · intro found
      rcases found with ⟨id, listed, found⟩
      exact ⟨Ledger.account?_mem found, Ledger.account?_id found ▸ listed⟩
    · intro holds
      exact ⟨account.id, holds.2, sound.account?_eq holds.1⟩
  rw [Ledger.accountsById]
  apply ((Ledger.readAll_alike members).mono _ fun _ _ same => same).map_right
  · intro shown shownSorted same
    rw [same.1, same.2, List.map_filterMap]
    apply List.filterMap_congr
    intro id member
    rw [← sound.find?_eq_account? perm member, List.find?_map]
    rfl
  · intro id lost
    rcases lost with ⟨none, account, member, same⟩
    rcases List.mem_filterMap.mp member with ⟨wanted, listed, found⟩
    rw [Ledger.account?_id found] at same
    exact ⟨none, same ▸ listed⟩

/-- The movements on an account come from tables as they come from memory. -/
theorem movements_engine (lawful : engine.Lawful holds sees)
    (seen : sees state opened book.tables) (accountId : AccountId) :
    engine.movements accountId opened = .ok (movementsOf book.ledger.lines accountId) := by
  have onAccount : (fun row : LineRow => !row.deleted && row.accountId == accountId) ∘
      PlacedLine.row = (fun posted : PostedLine => posted.line.accountId == accountId) ∘
        Prod.fst := by
    funext placed
    simp [PlacedLine.row]
  have read : (fun row : LineRow => row.read.map (·.toMovement)) ∘ PlacedLine.row =
      fun placed => pure placed.1.line.toMovement := by
    funext placed
    rw [Function.comp_apply, PlacedLine.read_row]
    rfl
  rw [Engine.movements, lawful.linesOn accountId seen]
  change List.mapM _ (book.tables.lines.filter _) = _
  rw [tables, List.filter_map, onAccount, List.mapM_map, read, List.mapM_pure,
    movementsOf, lines_ledger, List.filter_map, List.map_map]
  rfl

/-- The nil account, which is not looked up in tables, has no lines in memory. -/
private theorem balanceOf_engine (lawful : engine.Lawful holds sees) (sound : book.ledger.Sound)
    (seen : sees state opened book.tables) (accountId : AccountId) :
    engine.balanceOf accountId opened =
      settle accountId (movementsOf book.ledger.lines accountId) := by
  rw [Engine.balanceOf]
  by_cases nil : accountId.isNil
  · have none : movementsOf book.ledger.lines accountId = [] := by
      apply movementsOf_eq_nil
      intro posted member same
      exact (sound.lineSound posted member).named (same.trans (EntityId.isNil_iff.mp nil))
    rw [if_pos nil, none]
    rfl
  · rw [if_neg nil, movements_engine lawful seen]

/-- The accounts that meet a condition on their rows are read as those are read in memory that
meet the same condition, in some order. -/
private theorem readAccounts_engine (lawful : engine.Lawful holds sees) (sound : book.ledger.Sound)
    (seen : sees state opened book.tables) (query : AccountQuery) (meets : Account → Bool)
    (same : ∀ holding ∈ book.holdings, query.meets holding.row = meets holding.stored) :
    ∃ sorted : List Account, sorted.Perm (book.ledger.accounts.filter meets) ∧
      engine.readAccounts query opened = sorted.mapM book.ledger.readAccount := by
  have rowsMeeting : book.tables.accounts.filter query.meets =
      (book.holdings.filter fun holding => meets holding.stored).map Holding.row := by
    rw [tables, List.filter_map]
    exact congrArg (List.map Holding.row) (List.filter_congr same)
  rcases lawful.accounts query seen with ⟨rows, listed, perm⟩
  rw [rowsMeeting] at perm
  rcases exists_of_perm_map perm with ⟨sorted, rfl, sortedPerm⟩
  refine ⟨sorted.map Holding.stored, ?_, ?_⟩
  · rw [ledger, List.filter_map]
    exact sortedPerm.map _
  · have read : AccountRow.read ∘ Holding.row = fun holding => pure holding.stored := by
      funext holding
      exact holding.read_row
    have readOne : (fun account : Account =>
        (engine.balanceOf account.id opened).map fun balance =>
          account.showing (AccountBalance.settled balance)) = book.ledger.readAccount := by
      funext account
      rw [balanceOf_engine lawful sound seen, Ledger.readAccount, Ledger.reportedBalance]
      cases settle account.id (movementsOf book.ledger.lines account.id) <;> rfl
    rw [Engine.readAccounts, listed]
    dsimp only
    rw [List.mapM_map, read, List.mapM_pure, readOne]
    rfl

theorem accountsOfCustomer_engine (lawful : engine.Lawful holds sees) (sound : book.ledger.Sound)
    (held : holds state book.tables) (customerId : CustomerId) :
    ∃ outcome after, engine.accountsOfCustomer customerId state = (outcome, after) ∧
      OutcomesAlike (fun id => book.ledger.balanceOf? id = none ∧
          ∃ account ∈ book.ledger.accounts, account.customerId = customerId ∧ account.id = id)
        List.Perm (book.ledger.accountsOfCustomer customerId) outcome ∧
      holds after book.tables := by
  refine lawful.reading held fun {began opened} seen => ?_
  rcases readAccounts_engine lawful sound seen (.ofCustomer customerId)
    (fun account => account.customerId == customerId) fun _ _ => rfl with ⟨sorted, perm, read⟩
  rw [Ledger.accountsOfCustomer, read]
  refine (Ledger.readAll_alike fun _ => perm.symm.mem_iff).mono ?_ ?_
  · intro id lost
    rcases lost with ⟨none, account, member, same⟩
    rcases List.mem_filter.mp member with ⟨stored, owned⟩
    exact ⟨none, account, stored, by simpa using owned, same⟩
  · intro shown shownSorted same
    rw [same.1, same.2]
    exact perm.symm.map _

theorem accountNumbered_engine (lawful : engine.Lawful holds sees) (sound : book.ledger.Sound)
    (held : holds state book.tables) (accountNumber routingNumber : String)
    (accountType : AccountType) :
    ∃ after, engine.accountNumbered accountNumber routingNumber accountType state =
        (book.ledger.findAccount accountNumber routingNumber accountType, after) ∧
      holds after book.tables := by
  let meets (account : Account) : Bool := account.accountNumber == accountNumber &&
    account.routingNumber == routingNumber && account.accountType == accountType
  have sameType (stored : AccountType) :
      (stored.name == accountType.name) = (stored == accountType) := by
    rw [Bool.eq_iff_iff, beq_iff_eq, beq_iff_eq]
    exact ⟨AccountType.name_injective, congrArg AccountType.name⟩
  -- No two accounts have one number at one bank.
  have few : book.ledger.accounts.filter meets = [] ∨
      ∃ account, book.ledger.accounts.filter meets = [account] := by
    apply filter_eq_nil_or_singleton sound.accountNumbers
    intro account met
    simp only [meets, Bool.and_eq_true, beq_iff_eq] at met
    rw [met.1.1, met.1.2]
  have reads : ∃ outcome after, engine.reading (engine.readAccounts
      (.numbered accountNumber routingNumber accountType.name)) state = (outcome, after) ∧
      outcome.map (·.head?) = book.ledger.findAccount accountNumber routingNumber accountType ∧
      holds after book.tables := by
    refine lawful.reading held fun {began opened} seen => ?_
    rcases readAccounts_engine lawful sound seen
      (.numbered accountNumber routingNumber accountType.name) meets
      (fun holding _ => congrArg (_ && ·) (sameType holding.account.accountType)) with
      ⟨sorted, perm, read⟩
    rw [read, Ledger.findAccount_eq_head?]
    rcases few with none | ⟨account, single⟩
    · rw [none] at perm ⊢
      rw [perm.eq_nil]
      rfl
    · rw [single] at perm ⊢
      rw [List.perm_singleton.mp perm, List.mapM_cons, List.mapM_nil, List.head?_cons]
      dsimp only
      cases book.ledger.readAccount account <;> rfl
  rcases reads with ⟨outcome, after, run, found, held⟩
  refine ⟨after, ?_, held⟩
  rw [Engine.accountNumbered, Action.bind_pure_apply, run, ← found]

theorem accountsById_engine (lawful : engine.Lawful holds sees) (sound : book.ledger.Sound)
    (held : holds state book.tables) (ids : List AccountId) :
    ∃ outcome after, engine.accountsById ids state = (outcome, after) ∧
      OutcomesAlike (fun id => book.ledger.balanceOf? id = none ∧ id ∈ ids) Eq
        (book.ledger.accountsById ids) outcome ∧
      holds after book.tables := by
  rw [Engine.accountsById]
  cases noIds : ids.isEmpty with
  | true =>
      rw [List.isEmpty_iff.mp noIds]
      exact ⟨_, _, rfl, .ok rfl, held⟩
  | false =>
      have reads : ∃ outcome after,
          engine.reading (engine.readAccounts (.withIds ids)) state = (outcome, after) ∧
          OutcomesAlike (fun id => book.ledger.balanceOf? id = none ∧ id ∈ ids) Eq
            (book.ledger.accountsById ids)
            (outcome.map fun found => ids.filterMap fun id => found.find? (·.id == id)) ∧
          holds after book.tables := by
        refine lawful.reading held fun {began opened} seen => ?_
        rcases readAccounts_engine lawful sound seen (.withIds ids)
          (fun account => ids.contains account.id) (fun _ _ => rfl) with ⟨sorted, perm, read⟩
        rw [read]
        exact accountsById_alike sound perm
      rcases reads with ⟨outcome, after, run, alike, held⟩
      rw [if_neg Bool.false_ne_true, Action.bind_pure_apply, run]
      exact ⟨_, _, rfl, alike, held⟩

end Book

end DepositLedger
