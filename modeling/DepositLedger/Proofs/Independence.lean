import DepositLedger.Proofs.Acceptance
import DepositLedger.Proofs.Calls
import DepositLedger.Proofs.Journal

/-! Postings that have nothing in common. A posting looks at what is kept under its identifier
and on its accounts, and adds to that alone. So transactions with different identifiers and on
different accounts are accepted or refused alike in either order. What is kept is then in
another order, but reads the same. -/

namespace DepositLedger

open Memory

/-- The transactions have different identifiers, and no account is in both. -/
structure Transaction.Apart (first second : Transaction) : Prop where
  ids : first.id ≠ second.id
  accounts : ∀ line ∈ first.lines, ∀ other ∈ second.lines, line.accountId ≠ other.accountId

private theorem Transaction.Apart.symm {first second : Transaction} (apart : first.Apart second) :
    second.Apart first where
  ids := apart.ids.symm
  accounts := fun line member other otherMember =>
    (apart.accounts other otherMember line member).symm

namespace Memory

namespace Ledger

variable {ledger other : Ledger} {transaction first second : Transaction} {accountId : AccountId}

private theorem account?_congr (accounts : ledger.accounts = other.accounts) :
    ledger.account? = other.account? := by
  funext id
  rw [account?, accounts, account?]

theorem reportedBalance_congr
    (movements : movementsOf ledger.lines accountId = movementsOf other.lines accountId) :
    ledger.reportedBalance accountId = other.reportedBalance accountId := by
  rw [reportedBalance, movements, reportedBalance]

theorem readAll_congr {accounts : List Account} (movements : ∀ account ∈ accounts,
      movementsOf ledger.lines account.id = movementsOf other.lines account.id) :
    accounts.mapM ledger.readAccount = accounts.mapM other.readAccount := by
  induction accounts with
  | nil => rfl
  | cons account rest induction =>
      rcases List.forall_mem_cons.mp movements with ⟨own, later⟩
      rw [List.mapM_cons, List.mapM_cons, induction later, readAccount,
        reportedBalance_congr own, readAccount]

private theorem accountsById_congr {ids : List AccountId}
    (accounts : ledger.accounts = other.accounts)
    (movements : ∀ id ∈ ids, movementsOf ledger.lines id = movementsOf other.lines id) :
    ledger.accountsById ids = other.accountsById ids := by
  rw [accountsById, account?_congr accounts, accountsById]
  apply readAll_congr
  intro account member
  rcases List.mem_filterMap.mp member with ⟨id, listed, found⟩
  rw [account?_id found]
  exact movements id listed

/-! ## What a posting looks at -/

/-- Both ledgers have the same accounts, and they keep the same under the identifier of the
transaction and on its accounts. -/
structure SeenAlike (ledger other : Ledger) (transaction : Transaction) : Prop where
  accounts : ledger.accounts = other.accounts
  header : hasHeader ledger.headers transaction.id = hasHeader other.headers transaction.id
  lines : ∀ line ∈ transaction.lines, hasLine ledger.lines transaction.id line.accountId =
    hasLine other.lines transaction.id line.accountId
  movements : ∀ line ∈ transaction.lines,
    movementsOf ledger.lines line.accountId = movementsOf other.lines line.accountId

private theorem linesVerdict_congr (rules : PostingRules) {lines : List TransactionLine}
    (earlier : List TransactionLine)
    (taken : ∀ line ∈ lines, hasLine ledger.lines rules.transactionId line.accountId =
      hasLine other.lines rules.transactionId line.accountId)
    (movements : ∀ line ∈ lines,
      movementsOf ledger.lines line.accountId = movementsOf other.lines line.accountId) :
    rules.linesVerdict ledger earlier lines = rules.linesVerdict other earlier lines := by
  induction lines generalizing earlier with
  | nil => rfl
  | cons line rest induction =>
      rcases List.forall_mem_cons.mp taken with ⟨lineTaken, restTaken⟩
      rcases List.forall_mem_cons.mp movements with ⟨lineMovements, restMovements⟩
      have step : rules.lineVerdict ledger earlier line = rules.lineVerdict other earlier line := by
        rw [PostingRules.lineVerdict, PostingRules.checkVerdict, lineTaken, lineMovements]
        rfl
      rw [PostingRules.linesVerdict, step, induction _ restTaken restMovements]
      rfl

/-- A posting says the same of ledgers that it sees alike. -/
theorem SeenAlike.verdict_eq (alike : ledger.SeenAlike other transaction)
    (guard : OverdraftGuard) (options : PostingOptions) :
    ledger.verdict guard transaction options = other.verdict guard transaction options := by
  have resolved : ledger.accountsById transaction.touchedAccounts =
      other.accountsById transaction.touchedAccounts :=
    accountsById_congr alike.accounts (forall_touchedAccounts_iff.mpr alike.movements)
  have written (accounts : List Account) :
      ledger.writtenVerdict guard transaction options accounts =
        other.writtenVerdict guard transaction options accounts := by
    rw [writtenVerdict, writtenVerdict, alike.header]
    cases linesOf : transaction.lines with
    | nil => rfl
    | cons firstLine rest =>
        dsimp only
        rw [← linesOf, linesVerdict_congr _ _ alike.lines alike.movements]
  rw [verdict, resolved]
  simp only [written]
  rfl

/-- What has been posted apart from a transaction is not seen by it. -/
private theorem seenAlike_posted (ledger : Ledger) (apart : first.Apart second) :
    (ledger.posted first).SeenAlike ledger second where
  accounts := rfl
  header := by
    have unnamed : hasHeader [⟨first.id, first.timestamp⟩] second.id = false := by
      simpa [hasHeader] using apart.ids
    rw [posted, hasHeader, List.any_append, ← hasHeader, ← hasHeader, unnamed, Bool.or_false]
  lines := fun line _ => by
    have unnamed : hasLine (keepLines first.id first.lines) second.id line.accountId = false := by
      apply hasLine_eq_false_iff.mpr
      intro kept member same
      exact (apart.ids ((mem_keepLines.mp member).1.symm.trans same)).elim
    rw [posted, hasLine, List.any_append, ← hasLine, ← hasLine, unnamed, Bool.or_false]
  movements := fun line member =>
    movementsOf_posted_of_absent fun other otherMember =>
      apart.accounts other otherMember line member

/-! ## What is read of a ledger -/

/-- All that is asked of the ledgers is answered alike: they have the same accounts, the same
lines on each account in the same order, and the same transactions. -/
structure ReadsAs (ledger other : Ledger) : Prop where
  accounts : ledger.accounts = other.accounts
  onAccount : ∀ accountId, ledger.lines.filter (·.line.accountId == accountId) =
    other.lines.filter (·.line.accountId == accountId)
  transactions : ∀ id, ledger.transaction? id = other.transaction? id

namespace ReadsAs

private theorem refl (ledger : Ledger) : ledger.ReadsAs ledger where
  accounts := rfl
  onAccount := fun _ => rfl
  transactions := fun _ => rfl

private theorem movementsOf_eq (alike : ledger.ReadsAs other) (accountId : AccountId) :
    movementsOf ledger.lines accountId = movementsOf other.lines accountId := by
  rw [movementsOf, alike.onAccount, movementsOf]

private theorem history_eq (alike : ledger.ReadsAs other) (accountId : AccountId) :
    ledger.history accountId = other.history accountId := by
  have transactions : ledger.transaction? = other.transaction? := funext alike.transactions
  rw [history, alike.onAccount, transactions, history]

private theorem ask_eq (alike : ledger.ReadsAs other) (guard : OverdraftGuard) (query : Query) :
    ((operations guard).ask query ledger).1 = ((operations guard).ask query other).1 := by
  have readAccount_eq : ledger.readAccount = other.readAccount := by
    funext account
    rw [readAccount, reportedBalance_congr (alike.movementsOf_eq account.id), readAccount]
  have answered {α : Type} (answer : α → Answer) (read : Ledger → Except LedgerFault α)
      (same : read ledger = read other) :
      ((Action.inspect read >>= fun found => pure (answer found)) ledger).1 =
        ((Action.inspect read >>= fun found => pure (answer found)) other).1 := by
    simp only [Action.bind_apply, Action.inspect, same]
    cases read other <;> rfl
  cases query with
  | accounts ids =>
      exact answered .accounts (·.accountsById ids) <|
        accountsById_congr alike.accounts fun id _ => alike.movementsOf_eq id
  | accountsOfCustomer customerId =>
      apply answered .accountsOfCustomer (·.accountsOfCustomer customerId)
      rw [accountsOfCustomer, alike.accounts, readAccount_eq, accountsOfCustomer]
  | findAccount accountNumber routingNumber accountType =>
      apply answered .accountFound (·.findAccount accountNumber routingNumber accountType)
      rw [findAccount, alike.accounts, readAccount_eq, findAccount]
  | findTransaction id =>
      exact answered .transactionFound (.ok <| ·.transaction? id) <|
        congrArg Except.ok (alike.transactions id)
  | history accountId =>
      exact answered .history (.ok <| ·.history accountId) <|
        congrArg Except.ok (alike.history_eq accountId)

end ReadsAs

/-- Nothing that is read tells which of two transactions was posted first. -/
private theorem readsAs_posted_posted (ledger : Ledger) (apart : first.Apart second) :
    ((ledger.posted first).posted second).ReadsAs ((ledger.posted second).posted first) where
  accounts := rfl
  onAccount := fun accountId => by
    apply filter_key_append_comm fun kept : PostedLine => kept.line.accountId
    intro kept member other otherMember
    exact apart.accounts kept.line (mem_keepLines.mp member).2 other.line
      (mem_keepLines.mp otherMember).2
  transactions := fun id => by
    have headers : ((ledger.posted first).posted second).headers.filter (·.transactionId == id) =
        ((ledger.posted second).posted first).headers.filter (·.transactionId == id) := by
      apply filter_key_append_comm Header.transactionId
      intro header member other otherMember
      rw [List.mem_singleton.mp member, List.mem_singleton.mp otherMember]
      exact apart.ids
    have lines : ((ledger.posted first).posted second).lines.filter (·.transactionId == id) =
        ((ledger.posted second).posted first).lines.filter (·.transactionId == id) := by
      apply filter_key_append_comm PostedLine.transactionId
      intro kept member other otherMember
      rw [(mem_keepLines.mp member).1, (mem_keepLines.mp otherMember).1]
      exact apart.ids
    rw [transaction?, ← List.head?_filter, headers, lines, List.head?_filter, transaction?]

variable {guard : OverdraftGuard} {options firstOptions secondOptions : PostingOptions}
  {recordedAt firstRecordedAt secondRecordedAt : Timestamp}

/-- A posting answers as it does without the other one before it. -/
private theorem post_fst_after_post (apart : first.Apart second) :
    ((operations guard).post second secondOptions secondRecordedAt
      ((operations guard).post first firstOptions firstRecordedAt ledger).2).1 =
        ((operations guard).post second secondOptions secondRecordedAt ledger).1 := by
  simp only [post_apply]
  rcases ledger.verdict guard first firstOptions with fault | ⟨⟨⟩⟩
  · rfl
  · exact (ledger.seenAlike_posted apart).verdict_eq guard secondOptions

private theorem readsAs_post_post (apart : first.Apart second) :
    ((operations guard).post second secondOptions secondRecordedAt
      ((operations guard).post first firstOptions firstRecordedAt ledger).2).2.ReadsAs
        ((operations guard).post first firstOptions firstRecordedAt
          ((operations guard).post second secondOptions secondRecordedAt ledger).2).2 := by
  have secondVerdict := (ledger.seenAlike_posted apart).verdict_eq guard secondOptions
  have firstVerdict := (ledger.seenAlike_posted apart.symm).verdict_eq guard firstOptions
  simp only [post_apply]
  rcases firstPassed : ledger.verdict guard first firstOptions with firstFault | ⟨⟨⟩⟩ <;>
    rcases secondPassed : ledger.verdict guard second secondOptions with secondFault | ⟨⟨⟩⟩
  · simp only [firstPassed]
    exact .refl ledger
  · simp only [firstVerdict, firstPassed]
    exact .refl _
  · simp only [secondVerdict, firstPassed, secondPassed]
    exact .refl _
  · simp only [firstVerdict, secondVerdict, firstPassed, secondPassed]
    exact ledger.readsAs_posted_posted apart

/-! ## Accounts that a posting does not mention -/

theorem Holds.history_posted_of_absent {journal : List Transaction}
    (holds : ledger.Holds journal) (sound : ledger.Sound)
    (accepted : ledger.Accepts guard transaction options)
    (absent : ∀ line ∈ transaction.lines, line.accountId ≠ accountId) :
    (ledger.posted transaction).history accountId = ledger.history accountId := by
  have untouched : transaction.touches accountId = false := by
    simpa [Transaction.touches] using absent
  rw [(holds.posted transaction).history_eq (sound.posted accepted), holds.history_eq sound,
    List.filter_append, List.filter_singleton, untouched]
  simp

end Ledger

/-- On the ledger of any run: postings with different identifiers and on different accounts
answer alike in either order, and whatever is asked afterwards is answered alike. No posting
changes the balance or the history of an account that it does not mention. -/
theorem independent_postings_commute (guard : OverdraftGuard) (requests : List Request) :
    let ledger := reached guard requests
    (∀ first firstOptions firstRecordedAt second secondOptions secondRecordedAt,
      first.Apart second →
      let postFirst := (operations guard).post first firstOptions firstRecordedAt
      let postSecond := (operations guard).post second secondOptions secondRecordedAt
      let firstBefore := (postSecond (postFirst ledger).2).2
      let secondBefore := (postFirst (postSecond ledger).2).2
      (postFirst (postSecond ledger).2).1 = (postFirst ledger).1 ∧
      (postSecond (postFirst ledger).2).1 = (postSecond ledger).1 ∧
      (∀ accountId,
        firstBefore.reportedBalance accountId = secondBefore.reportedBalance accountId) ∧
      ∀ query, ((operations guard).ask query firstBefore).1 =
        ((operations guard).ask query secondBefore).1) ∧
    ∀ transaction options recordedAt accountId,
      (∀ line ∈ transaction.lines, line.accountId ≠ accountId) →
      let left := ((operations guard).post transaction options recordedAt ledger).2
      left.reportedBalance accountId = ledger.reportedBalance accountId ∧
        left.history accountId = ledger.history accountId := by
  intro ledger
  have built : ledger.Built guard (postings guard requests) := built_reached guard requests
  refine ⟨?_, ?_⟩
  · intro first firstOptions firstRecordedAt second secondOptions secondRecordedAt apart
      postFirst postSecond firstBefore secondBefore
    have alike : firstBefore.ReadsAs secondBefore := Ledger.readsAs_post_post apart
    exact ⟨Ledger.post_fst_after_post apart.symm, Ledger.post_fst_after_post apart,
      fun accountId => Ledger.reportedBalance_congr (alike.movementsOf_eq accountId),
      alike.ask_eq guard⟩
  · intro transaction options recordedAt accountId absent left
    have applied : left = _ :=
      congrArg Prod.snd (ledger.post_apply guard transaction options recordedAt)
    rw [applied]
    rcases passed : ledger.verdict guard transaction options with fault | ⟨⟨⟩⟩
    · exact ⟨rfl, rfl⟩
    · have accepted := built.sound.verdict_ok_iff_accepts.mp passed
      exact ⟨Ledger.reportedBalance_congr (Ledger.movementsOf_posted_of_absent absent),
        built.holds.history_posted_of_absent built.sound accepted absent⟩

/-- A transfer between two sample accounts. -/
def transferBetween (number payer payee : Nat) : Transaction where
  id := ⟨.ofNat number⟩
  timestamp := .microsecondsInto2050 1
  lines := [sampleLine .achDebit (sampleCents 300) payer,
    sampleLine .achCredit (sampleCents 300) payee]

def fourAccountsRun : List Request :=
  [addSample 11 "121042882", addSample 12 "121042882", addSample 13 "121042882",
    addSample 14 "121042882"]

/-- Two transfers that are both posted: the ledger tells which was first, its answers do not. -/
theorem independent_postings_commute_transfers :
    let ledger := reached sampleGuard fourAccountsRun
    let postFirst := (operations sampleGuard).post (transferBetween 21 11 12) {}
      (.microsecondsInto2050 2)
    let postSecond := (operations sampleGuard).post (transferBetween 22 13 14) {}
      (.microsecondsInto2050 3)
    let firstBefore := (postSecond (postFirst ledger).2).2
    let secondBefore := (postFirst (postSecond ledger).2).2
    (postFirst (postSecond ledger).2).1 = .ok () ∧ (postSecond (postFirst ledger).2).1 = .ok () ∧
      firstBefore ≠ secondBefore ∧
      ∀ query, ((operations sampleGuard).ask query firstBefore).1 =
        ((operations sampleGuard).ask query secondBefore).1 := by
  intro ledger postFirst postSecond firstBefore secondBefore
  have apart : (transferBetween 21 11 12).Apart (transferBetween 22 13 14) :=
    ⟨by decide, by decide⟩
  have firstPosts : (postFirst ledger).1 = .ok () := by decide
  have secondPosts : (postSecond ledger).1 = .ok () := by decide
  rcases (independent_postings_commute sampleGuard fourAccountsRun).1 _ {}
    (.microsecondsInto2050 2) _ {} (.microsecondsInto2050 3) apart with
    ⟨firstAlike, secondAlike, _, answers⟩
  exact ⟨firstAlike.trans firstPosts, secondAlike.trans secondPosts, by decide, answers⟩

end Memory

end DepositLedger
