import DepositLedger.Proofs.DoubleEntry
import DepositLedger.Proofs.Independence
import DepositLedger.Proofs.Reads

/-! New accounts. An account is opened in three steps, and what the first step did stays done if
the second one fails: then the account is there without money. Nothing else can be in the way of
the deposit than what is wrong with its one line, as nothing was ever posted on a new account. -/

namespace DepositLedger

open Memory

/-- All that is asked about one account alone. -/
def Account.queries (account : Account) : List Query :=
  [.accounts [account.id],
    .findAccount account.accountNumber account.routingNumber account.accountType,
    .history account.id]

/-- The account as it is read: with all that was given of it, but under its owner, with this
balance, and with nothing pending. -/
def Account.held (given : Account) (customerId : CustomerId) (balance : Cents) : Account where
  id := given.id
  customerId
  name := given.name
  accountNumber := given.accountNumber
  routingNumber := given.routingNumber
  status := given.status
  accountType := given.accountType
  createdAt := given.createdAt
  closedAt := given.closedAt
  lastModified := given.lastModified
  balance
  balanceAvailable := balance
  balancePending := Cents.zero

namespace Memory

/-- The account is read as it was given for the customer, with this balance and these
transactions, whether it is looked for by its identifier or by its numbers and type, and after
the other accounts of the customer. -/
structure Ledger.Shows (ledger : Ledger) (guard : OverdraftGuard) (customerId : CustomerId)
    (given : Account) (balance : Cents) (transactions : List Transaction)
    (others : Except LedgerFault (List Account)) : Prop where
  byId : (operations guard).accounts [given.id] ledger =
    (.ok [given.held customerId balance], ledger)
  byNumbers :
    (operations guard).findAccount given.accountNumber given.routingNumber given.accountType
      ledger = (.ok (some (given.held customerId balance)), ledger)
  ofCustomer : (operations guard).accountsOfCustomer customerId ledger =
    (others.map (· ++ [given.held customerId balance]), ledger)
  history : (operations guard).history given.id ledger = (.ok transactions, ledger)

namespace Ledger

/-- An account of the same number at the same bank is stored. -/
def HasNumbers (ledger : Ledger) (account : Account) : Prop :=
  ∃ other ∈ ledger.accounts, other.accountNumber = account.accountNumber ∧
    other.routingNumber = account.routingNumber

instance (ledger : Ledger) (account : Account) : Decidable (ledger.HasNumbers account) :=
  inferInstanceAs (Decidable (∃ other ∈ ledger.accounts,
    other.accountNumber = account.accountNumber ∧ other.routingNumber = account.routingNumber))

def HasId (ledger : Ledger) (accountId : AccountId) : Prop :=
  ∃ other ∈ ledger.accounts, other.id = accountId

instance (ledger : Ledger) (accountId : AccountId) : Decidable (ledger.HasId accountId) :=
  inferInstanceAs (Decidable (∃ other ∈ ledger.accounts, other.id = accountId))

variable {ledger added left : Ledger} {guard : OverdraftGuard} {customerId : CustomerId}
  {account other : Account} {amount balance : Cents} {stamp : Stamp}

/-! ## Reading one account -/

/-- An account that is stored in both ledgers is read alike if it has the same history and the
same movements in both. -/
private theorem Sound.ask_congr (leftSound : left.Sound) (sound : ledger.Sound)
    (leftStored : account ∈ left.accounts) (stored : account ∈ ledger.accounts)
    (movements : movementsOf left.lines account.id = movementsOf ledger.lines account.id)
    (history : left.history account.id = ledger.history account.id) :
    ∀ query ∈ account.queries,
      ((operations guard).ask query left).1 = ((operations guard).ask query ledger).1 := by
  have read : left.readAccount account = ledger.readAccount account := by
    rw [readAccount, reportedBalance_congr movements, readAccount]
  have byId : left.accountsById [account.id] = ledger.accountsById [account.id] := by
    rw [leftSound.accountsById_of_mem leftStored, read, sound.accountsById_of_mem stored]
  have byNumbers :
      left.findAccount account.accountNumber account.routingNumber account.accountType =
        ledger.findAccount account.accountNumber account.routingNumber account.accountType := by
    rw [leftSound.findAccount_of_mem leftStored, read, sound.findAccount_of_mem stored]
  intro query member
  simp only [Account.queries, List.mem_cons, List.not_mem_nil, or_false] at member
  rcases member with rfl | rfl | rfl
  · simp only [Operations.ask, Action.bind_pure_apply, operations, Action.inspect, byId]
  · simp only [Operations.ask, Action.bind_pure_apply, operations, Action.inspect, byNumbers]
  · simp only [Operations.ask, Action.bind_pure_apply, operations, Action.inspect, history]

/-! ## Histories -/

/-- Nothing is told of an account that is not stored. -/
private theorem Sound.history_eq_nil (sound : ledger.Sound) {accountId : AccountId}
    (absent : ∀ account ∈ ledger.accounts, account.id ≠ accountId) :
    ledger.history accountId = [] := by
  have unmoved := List.map_eq_nil_iff.mp (sound.movementsOf_eq_nil absent)
  rw [history, unmoved]
  simp

private theorem history_addAccount (stored : ledger.addAccount customerId account = .ok added) :
    added.history = ledger.history := by
  rcases addAccount_ok_iff.mp stored with ⟨_, _, rfl⟩
  rfl

private theorem Sound.history_new (sound : ledger.Sound)
    (stored : ledger.addAccount customerId account = .ok added) :
    added.history account.id = [] := by
  rw [history_addAccount stored]
  exact sound.history_eq_nil (addAccount_ok_iff.mp stored).2.1

/-- The first transaction on an account is all that is told of it. -/
private theorem Holds.history_posted_of_first {journal : List Transaction}
    {transaction : Transaction}
    {options : PostingOptions} {accountId : AccountId} (holds : ledger.Holds journal)
    (sound : ledger.Sound) (accepted : ledger.Accepts guard transaction options)
    (touched : transaction.touches accountId = true) (first : ledger.history accountId = []) :
    (ledger.posted transaction).history accountId = [transaction] := by
  have told := holds.history_perm sound accountId
  rw [first, List.nil_perm] at told
  have perm := (holds.posted transaction).history_perm (sound.posted accepted) accountId
  rw [List.filter_append, told, List.filter_singleton, touched] at perm
  exact List.perm_singleton.mp perm

/-! ## One more account -/

/-- A ledger that has one more account, and on which the others have the same movements and the
same history. -/
structure Gains (ledger left : Ledger) (customerId : CustomerId) (account : Account) : Prop where
  sound : left.Sound
  accounts : left.accounts = ledger.accounts ++ [account.stored customerId]
  movements : ∀ other ∈ ledger.accounts,
    movementsOf left.lines other.id = movementsOf ledger.lines other.id
  history : ∀ other ∈ ledger.accounts, left.history other.id = ledger.history other.id

private theorem Sound.gains_addAccount (sound : ledger.Sound)
    (stored : ledger.addAccount customerId account = .ok added) :
    ledger.Gains added customerId account where
  sound := sound.addAccount stored
  accounts := by
    rcases addAccount_ok_iff.mp stored with ⟨_, _, rfl⟩
    rfl
  movements := by
    rcases addAccount_ok_iff.mp stored with ⟨_, _, rfl⟩
    exact fun _ _ => rfl
  history := fun other _ => congrFun (history_addAccount stored) other.id

private theorem Sound.gains_posted {journal : List Transaction} (sound : ledger.Sound)
    (holds : ledger.Holds journal) (stored : ledger.addAccount customerId account = .ok added)
    (accepted : added.Accepts guard (Operations.openingDeposit account amount stamp)
      { initialDeposit := true }) :
    ledger.Gains (added.posted (Operations.openingDeposit account amount stamp)) customerId
      account := by
  have gains := sound.gains_addAccount stored
  -- The deposit is on the new account, and no other has its identifier.
  have absent : ∀ other ∈ ledger.accounts,
      ∀ line ∈ (Operations.openingDeposit account amount stamp).lines,
        line.accountId ≠ other.id := fun other kept =>
    List.forall_mem_singleton.mpr ((addAccount_ok_iff.mp stored).2.1 other kept).symm
  refine ⟨gains.sound.posted accepted, gains.accounts, fun other kept => ?_, fun other kept => ?_⟩
  · rw [movementsOf_posted_of_absent (absent other kept), gains.movements other kept]
  · rw [(holds.addAccount stored).history_posted_of_absent gains.sound accepted
      (absent other kept), gains.history other kept]

/-- All that is asked about one account alone is answered as before. -/
private theorem Gains.ask (gains : ledger.Gains left customerId account) (sound : ledger.Sound)
    (kept : other ∈ ledger.accounts) :
    other ∈ left.accounts ∧ ∀ query ∈ other.queries,
      ((operations guard).ask query left).1 = ((operations guard).ask query ledger).1 := by
  have stays : other ∈ left.accounts := by
    rw [gains.accounts]
    exact List.mem_append_left _ kept
  exact ⟨stays, gains.sound.ask_congr sound stays kept (gains.movements other kept)
    (gains.history other kept)⟩

private theorem readAccount_stored (computed : ledger.balanceOf? account.id = some balance) :
    ledger.readAccount (account.stored customerId) = .ok (account.held customerId balance) :=
  readAccount_of_some computed

private theorem Gains.accountsOfCustomer (gains : ledger.Gains left customerId account)
    (computed : left.balanceOf? account.id = some balance) :
    left.accountsOfCustomer customerId =
      (ledger.accountsOfCustomer customerId).map (· ++ [account.held customerId balance]) := by
  have own : [account.stored customerId].filter (·.customerId == customerId) =
      [account.stored customerId] :=
    List.filter_eq_self.mpr (List.forall_mem_singleton.mpr (beq_self_eq_true customerId))
  have earlier : (ledger.accounts.filter (·.customerId == customerId)).mapM left.readAccount =
      (ledger.accounts.filter (·.customerId == customerId)).mapM ledger.readAccount :=
    readAll_congr fun other member => gains.movements other (List.mem_filter.mp member).1
  rw [Ledger.accountsOfCustomer, gains.accounts, List.filter_append, own, List.mapM_append,
    earlier, Ledger.accountsOfCustomer, List.mapM_cons, readAccount_stored computed, List.mapM_nil]
  cases (ledger.accounts.filter (·.customerId == customerId)).mapM ledger.readAccount <;> rfl

private theorem Gains.accountsOfCustomer_of_ne (gains : ledger.Gains left customerId account)
    {owner : CustomerId} (different : owner ≠ customerId) :
    left.accountsOfCustomer owner = ledger.accountsOfCustomer owner := by
  have none : [account.stored customerId].filter (·.customerId == owner) = [] :=
    List.filter_eq_nil_iff.mpr
      (List.forall_mem_singleton.mpr fun same => different (beq_iff_eq.mp same).symm)
  rw [Ledger.accountsOfCustomer, gains.accounts, List.filter_append, none, List.append_nil]
  exact readAll_congr fun other member => gains.movements other (List.mem_filter.mp member).1

private theorem Gains.shows (gains : ledger.Gains left customerId account)
    (computed : left.balanceOf? account.id = some balance) :
    left.Shows guard customerId account balance (left.history account.id)
      (ledger.accountsOfCustomer customerId) := by
  have stored : account.stored customerId ∈ left.accounts := by
    rw [gains.accounts]
    exact List.mem_append_right _ (List.mem_singleton_self _)
  have byId := gains.sound.accountsById_of_mem stored
  have byNumbers := gains.sound.findAccount_of_mem stored
  rw [readAccount_stored computed] at byId byNumbers
  exact ⟨congrArg (·, left) byId, congrArg (·, left) byNumbers,
    congrArg (·, left) (gains.accountsOfCustomer computed), rfl⟩

/-! ## The opening deposit -/

private theorem verdict_of_refused {transaction : Transaction} {options : PostingOptions}
    {fault : ValidationFault} (refused : transaction.checkFor options = .error fault) :
    ledger.verdict guard transaction options = .error (.validation fault) := by
  rw [verdict, refused]

/-- The deposit is refused for what is wrong with its line. -/
private theorem verdict_openingDeposit_of_faulty (named : stamp.id ≠ EntityId.nil)
    (dated : stamp.timestamp ≠ Timestamp.epoch) {reason : LineFault}
    (faulty : (⟨⟨.achCredit, amount⟩, account.id⟩ : TransactionLine).Faulty reason) :
    ledger.verdict guard (Operations.openingDeposit account amount stamp)
      { initialDeposit := true } = .error (.validation (.invalidLine 0 reason)) := by
  apply verdict_of_refused
  exact Transaction.checkShape_invalidLine_iff.mpr
    ⟨named, dated, firstFault_zero_iff.mpr faulty⟩

/-- Nothing is wrong with a first deposit but what is wrong with its line. -/
private theorem Sound.accepts_openingDeposit (sound : ledger.Sound)
    (stored : ledger.addAccount customerId account = .ok added)
    (named : stamp.id ≠ EntityId.nil) (dated : stamp.timestamp ≠ Timestamp.epoch)
    (fresh : ∀ header ∈ ledger.headers, header.transactionId ≠ stamp.id)
    (accountNamed : account.id ≠ EntityId.nil) (positive : 0 < amount.value) :
    added.Accepts guard (Operations.openingDeposit account amount stamp)
      { initialDeposit := true } where
  checked := Transaction.checkShape_ok_iff.mpr
    ⟨named, List.cons_ne_nil _ _, dated, List.forall_mem_singleton.mpr ⟨accountNamed, positive⟩⟩
  stored := List.forall_mem_singleton.mpr ⟨_, addAccount_mem stored, rfl⟩
  computable := List.forall_mem_singleton.mpr <| by
    rw [sound.balanceOf?_addAccount stored]
    rfl
  fresh := by
    rcases addAccount_ok_iff.mp stored with ⟨_, _, rfl⟩
    exact fresh
  distinct := List.nodup_singleton _
  startsWithCredit := fun _ => by simp [Operations.openingDeposit]
  affordable := fun _ => List.forall_mem_singleton.mpr <| by
    have credit : Purpose.achCredit ≠ .achDebit := nofun
    have value : Cents.zero.value + amount.value = amount.value := Int.zero_add _
    refine ⟨Cents.zero, sound.balanceOf?_addAccount stored, ?_⟩
    rw [Movement.signed_of_ne_achDebit credit, value]
    exact ⟨amount.in_range.1, amount.in_range.2, fun _ =>
      ⟨positive, fun debit => (credit debit).elim⟩⟩

/-! ## The three steps -/

private theorem addAccount_of_hasNumbers (taken : ledger.HasNumbers account) :
    ledger.addAccount customerId account =
      .error (.duplicateAccount account.accountNumber account.routingNumber) := by
  rw [addAccount, if_pos]
  simpa [HasNumbers] using taken

private theorem addAccount_of_hasId (new : ¬ ledger.HasNumbers account)
    (taken : ledger.HasId account.id) :
    ledger.addAccount customerId account =
      .error (.store (.uniqueViolation s!"accounts.account_id {account.id.toText}")) := by
  rw [addAccount, if_neg, if_pos]
  · simpa [HasId] using taken
  · simpa [HasNumbers] using new

private theorem addAccount_of_new (newNumbers : ¬ ledger.HasNumbers account)
    (newId : ¬ ledger.HasId account.id) :
    ledger.addAccount customerId account =
      .ok { ledger with accounts := ledger.accounts ++ [account.stored customerId] } := by
  rw [addAccount, if_neg, if_neg]
  · simpa [HasId] using newId
  · simpa [HasNumbers] using newNumbers

private theorem openWithDeposit_of_refused {fault : LedgerFault}
    (refused : ledger.addAccount customerId account = .error fault) :
    (operations guard).openWithDeposit customerId account amount stamp ledger =
      (.error fault, ledger) := by
  apply Operations.openWithDeposit_of_refused
  rw [addAccount_apply, refused]

/-- A deposit that is refused leaves the account without money. -/
private theorem Sound.openWithDeposit_of_faulty (sound : ledger.Sound)
    (stored : ledger.addAccount customerId account = .ok added)
    (named : stamp.id ≠ EntityId.nil) (dated : stamp.timestamp ≠ Timestamp.epoch)
    {reason : LineFault}
    (faulty : (⟨⟨.achCredit, amount⟩, account.id⟩ : TransactionLine).Faulty reason) :
    (operations guard).openWithDeposit customerId account amount stamp ledger =
        (.error (.validation (.invalidLine 0 reason)), added) ∧
      added.Shows guard customerId account Cents.zero []
        (ledger.accountsOfCustomer customerId) := by
  have shows : added.Shows guard customerId account Cents.zero (added.history account.id)
      (ledger.accountsOfCustomer customerId) :=
    (sound.gains_addAccount stored).shows (sound.balanceOf?_addAccount stored)
  rw [sound.history_new stored] at shows
  refine ⟨?_, shows⟩
  rw [sound.openWithDeposit_apply, stored]
  dsimp only
  rw [verdict_openingDeposit_of_faulty named dated faulty]

/-- A deposit that is accepted is all that there is on the account. -/
private theorem Sound.openWithDeposit_of_accepts {journal : List Transaction} (sound : ledger.Sound)
    (holds : ledger.Holds journal) (stored : ledger.addAccount customerId account = .ok added)
    (accepted : added.Accepts guard (Operations.openingDeposit account amount stamp)
      { initialDeposit := true }) :
    let left := added.posted (Operations.openingDeposit account amount stamp)
    (operations guard).openWithDeposit customerId account amount stamp ledger =
        (.ok (account.held customerId amount), left) ∧
      left.Shows guard customerId account amount
        [Operations.openingDeposit account amount stamp]
        (ledger.accountsOfCustomer customerId) := by
  intro left
  have addedSound := sound.addAccount stored
  have touched : (Operations.openingDeposit account amount stamp).touches account.id = true := by
    simp [Transaction.touches, Operations.openingDeposit]
  have told : left.history account.id = [Operations.openingDeposit account amount stamp] :=
    (holds.addAccount stored).history_posted_of_first addedSound accepted touched
      (sound.history_new stored)
  have shows : left.Shows guard customerId account amount (left.history account.id)
      (ledger.accountsOfCustomer customerId) :=
    (sound.gains_posted holds stored accepted).shows
      (sound.balanceOf?_openingDeposit stored accepted)
  rw [told] at shows
  refine ⟨?_, shows⟩
  rw [sound.openWithDeposit_apply, stored]
  dsimp only
  rw [addedSound.verdict_ok_iff_accepts.mpr accepted]
  rfl

/-- The ledger stays or gains the account. -/
private theorem Sound.openWithDeposit_cases {journal : List Transaction} (sound : ledger.Sound)
    (holds : ledger.Holds journal) :
    let left := ((operations guard).openWithDeposit customerId account amount stamp ledger).2
    left = ledger ∨ ledger.Gains left customerId account := by
  rw [sound.openWithDeposit_apply]
  cases stored : ledger.addAccount customerId account with
  | error fault => exact Or.inl rfl
  | ok added =>
      dsimp only
      rcases outcome : added.verdict guard (Operations.openingDeposit account amount stamp)
        { initialDeposit := true } with fault | ⟨⟨⟩⟩
      · exact Or.inr (sound.gains_addAccount stored)
      · exact Or.inr (sound.gains_posted holds stored
          ((sound.addAccount stored).verdict_ok_iff_accepts.mp outcome))

end Ledger

/-- On the ledger of any run: opening an account is refused without a trace if an account of its
numbers or else one of its identifier is stored. Otherwise the account is added, and what may be
wrong is only the line of its deposit: then it is there without money or history, and else with
the deposit alone, whatever its amount. It comes last of the accounts of its owner. Other accounts
and the lists of other customers are not changed by any of it. -/
theorem opened_with_deposit_or_without (guard : OverdraftGuard) (requests : List Request)
    (customerId : CustomerId) (account : Account) (amount : Cents) (stamp : Stamp)
    (named : stamp.id ≠ EntityId.nil)
    (fresh : ∀ header ∈ (reached guard requests).headers, header.transactionId ≠ stamp.id)
    (dated : stamp.timestamp ≠ Timestamp.epoch) :
    let ledger := reached guard requests
    let outcome := (operations guard).openWithDeposit customerId account amount stamp ledger
    let line : TransactionLine := ⟨⟨.achCredit, amount⟩, account.id⟩
    let deposit : Transaction := ⟨stamp.id, stamp.timestamp, [line]⟩
    let others := ((operations guard).accountsOfCustomer customerId ledger).1
    (ledger.HasNumbers account →
      outcome = (.error (.duplicateAccount account.accountNumber account.routingNumber), ledger)) ∧
    (¬ ledger.HasNumbers account → ledger.HasId account.id →
      outcome = (.error (.store (.uniqueViolation s!"accounts.account_id {account.id.toText}")),
        ledger)) ∧
    (¬ ledger.HasNumbers account → ¬ ledger.HasId account.id →
      let added : Ledger :=
        { ledger with accounts := ledger.accounts ++ [account.held customerId Cents.zero] }
      (∀ reason, line.Faulty reason →
        outcome = (.error (.validation (.invalidLine 0 reason)), added) ∧
        outcome.2.Shows guard customerId account Cents.zero [] others) ∧
      (account.id ≠ EntityId.nil → 0 < amount.value →
        outcome = (.ok (account.held customerId amount), added.posted deposit) ∧
        outcome.2.Shows guard customerId account amount [deposit] others)) ∧
    (∀ other ∈ ledger.accounts, other ∈ outcome.2.accounts ∧ ∀ query ∈ other.queries,
      ((operations guard).ask query outcome.2).1 = ((operations guard).ask query ledger).1) ∧
    ∀ owner ≠ customerId, ((operations guard).accountsOfCustomer owner outcome.2).1 =
      ((operations guard).accountsOfCustomer owner ledger).1 := by
  intro ledger outcome line deposit others
  have built : ledger.Built guard (postings guard requests) := built_reached guard requests
  have sound := built.sound
  have left : outcome.2 = ledger ∨ ledger.Gains outcome.2 customerId account :=
    sound.openWithDeposit_cases built.holds
  refine ⟨?_, ?_, ?_, ?_, ?_⟩
  · intro taken
    exact Ledger.openWithDeposit_of_refused (Ledger.addAccount_of_hasNumbers taken)
  · intro newNumbers taken
    exact Ledger.openWithDeposit_of_refused (Ledger.addAccount_of_hasId newNumbers taken)
  · intro newNumbers newId added
    have stored : ledger.addAccount customerId account = .ok added :=
      Ledger.addAccount_of_new newNumbers newId
    refine ⟨?_, ?_⟩
    · intro reason faulty
      rcases sound.openWithDeposit_of_faulty stored named dated faulty with ⟨refused, shows⟩
      have same : outcome = _ := refused
      rw [same]
      exact ⟨rfl, shows⟩
    · intro accountNamed positive
      have accepted : added.Accepts guard deposit { initialDeposit := true } :=
        sound.accepts_openingDeposit stored named dated fresh accountNamed positive
      rcases sound.openWithDeposit_of_accepts built.holds stored accepted with ⟨opened, shows⟩
      have same : outcome = _ := opened
      rw [same]
      exact ⟨rfl, shows⟩
  · intro other kept
    rcases left with same | gains
    · rw [same]
      exact ⟨kept, fun _ _ => rfl⟩
    · exact gains.ask sound kept
  · intro owner different
    rcases left with same | gains
    · rw [same]
    · exact gains.accountsOfCustomer_of_ne different

def firstDepositRun : List Request :=
  [addSample 11 "121042882",
    postSample 21 { initialDeposit := true } [sampleLine .achCredit (sampleCents 500) 11]]

/-- A second account is opened with the most that can be on an account. -/
theorem opened_with_most :
    let ledger := reached sampleGuard firstDepositRun
    let stamp : Stamp := ⟨⟨.ofNat 22⟩, .microsecondsInto2050 3, .microsecondsInto2050 4⟩
    let most := sampleCents 0x7fffffffffffffff
    let outcome := (operations sampleGuard).openWithDeposit ⟨.ofNat 1⟩
      (sampleAccount 12 "121042882") most stamp ledger
    stamp.id ≠ EntityId.nil ∧ stamp.timestamp ≠ Timestamp.epoch ∧
      (∀ header ∈ ledger.headers, header.transactionId ≠ stamp.id) ∧ ledger.headers ≠ [] ∧
      outcome.1 = .ok { sampleAccount 12 "121042882" with
        balance := most
        balanceAvailable := most } ∧
      (operations sampleGuard).history ⟨.ofNat 12⟩ outcome.2 =
        (.ok [⟨stamp.id, stamp.timestamp, [sampleLine .achCredit most 12]⟩], outcome.2) ∧
      ∀ query ∈ (sampleAccount 11 "121042882").queries,
        ((operations sampleGuard).ask query outcome.2).1 =
          ((operations sampleGuard).ask query ledger).1 := by
  intro ledger stamp most outcome
  have named : stamp.id ≠ EntityId.nil := by decide
  have dated : stamp.timestamp ≠ Timestamp.epoch := by decide
  have fresh : ∀ header ∈ ledger.headers, header.transactionId ≠ stamp.id := by decide
  have newNumbers : ¬ ledger.HasNumbers (sampleAccount 12 "121042882") := by decide
  have newId : ¬ ledger.HasId (sampleAccount 12 "121042882").id := by decide
  rcases opened_with_deposit_or_without sampleGuard firstDepositRun ⟨.ofNat 1⟩
    (sampleAccount 12 "121042882") most stamp named fresh dated with
    ⟨_, _, opening, others, _⟩
  rcases (opening newNumbers newId).2 (by decide) (by decide) with ⟨opened, shows⟩
  have kept : (sampleAccount 11 "121042882").stored ⟨.ofNat 1⟩ ∈ ledger.accounts := by decide
  exact ⟨named, dated, fresh, by decide, congrArg Prod.fst opened, shows.history,
    (others _ kept).2⟩

end Memory

end DepositLedger
