import DepositLedger.Proofs.Conservation
import DepositLedger.Proofs.History
import DepositLedger.Proofs.Reversal

/-! Accounts as they are read. An account is kept as it was given when it was added, and its
balance is what the transactions of its history add up to. So whichever way it is looked for,
one and the same account is read. -/

namespace DepositLedger.Memory

/-- The account that a request offers to add, and to whom. -/
def Request.offered? : Request → Option (CustomerId × Account)
  | .addAccount customerId account => some (customerId, account)
  | .openAccount customerId account _ _ => some (customerId, account)
  | .post _ _ _ => none
  | .reverse _ _ => none

/-- The request adds an account that it offers. -/
def Request.Adds (guard : OverdraftGuard) (ledger : Ledger) (customerId : CustomerId)
    (given : Account) (request : Request) : Prop :=
  request.offered? = some (customerId, given) ∧
    ((operations guard).addAccount customerId given ledger).1 = .ok ()

/-- Some request of the run added the account, as it is given here. -/
def Added (guard : OverdraftGuard) (requests : List Request) (customerId : CustomerId)
    (given : Account) : Prop :=
  ∃ earlier request later, requests = earlier ++ request :: later ∧
    request.Adds guard (reached guard earlier) customerId given

section

variable {guard : OverdraftGuard} {ledger : Ledger} {stored : Account}

private theorem Ledger.accounts_post (ledger : Ledger) (transaction : Transaction)
    (options : PostingOptions) (recordedAt : Timestamp) :
    ((operations guard).post transaction options recordedAt ledger).2.accounts =
      ledger.accounts := by
  rw [post_apply]
  rcases ledger.verdict guard transaction options with fault | ⟨⟨⟩⟩ <;> rfl

private theorem Ledger.accounts_after (ledger : Ledger) (request : Request) :
    (ledger.after guard request).accounts =
      match request.offered? with
      | none => ledger.accounts
      | some (customerId, account) =>
        ((operations guard).addAccount customerId account ledger).2.accounts := by
  cases request with
  | addAccount customerId account => rfl
  | openAccount customerId account amount stamp =>
      rw [after_openAccount, Request.offered?]
      dsimp only
      rw [addAccount_apply]
      cases ledger.addAccount customerId account with
      | error fault => rfl
      | ok added => exact accounts_post added _ _ _
  | post transaction options recordedAt => exact accounts_post ledger transaction options recordedAt
  | reverse id stamp =>
      rw [after_reverse, Request.offered?]
      cases ledger.transaction? id with
      | none => rfl
      | some posted => exact accounts_post ledger _ _ _

private theorem Ledger.mem_accounts_addAccount_iff {customerId : CustomerId} {given : Account} :
    stored ∈ ((operations guard).addAccount customerId given ledger).2.accounts ↔
      stored ∈ ledger.accounts ∨
        ((operations guard).addAccount customerId given ledger).1 = .ok () ∧
          stored = given.stored customerId := by
  rw [addAccount_apply]
  cases outcome : ledger.addAccount customerId given with
  | error fault => simp
  | ok added =>
      rcases addAccount_ok_iff.mp outcome with ⟨_, _, rfl⟩
      simp

/-- A request keeps the accounts that there are, and adds the one that it adds. -/
private theorem Ledger.mem_accounts_after_iff {request : Request} :
    stored ∈ (ledger.after guard request).accounts ↔
      stored ∈ ledger.accounts ∨ ∃ customerId given,
        request.Adds guard ledger customerId given ∧ stored = given.stored customerId := by
  rw [accounts_after]
  cases offered : request.offered? with
  | none => simp [Request.Adds, offered]
  | some offer =>
      dsimp only
      rw [mem_accounts_addAccount_iff]
      apply or_congr_right
      constructor
      · intro added
        exact ⟨offer.1, offer.2, ⟨offered, added.1⟩, added.2⟩
      · intro added
        rcases added with ⟨customerId, given, ⟨same, succeeded⟩, kept⟩
        rw [offered] at same
        cases same
        exact ⟨succeeded, kept⟩

private theorem Ledger.subset_accounts_foldl (ledger : Ledger) (requests : List Request) :
    ledger.accounts ⊆ (requests.foldl (Ledger.after guard) ledger).accounts := by
  induction requests generalizing ledger with
  | nil => exact List.Subset.refl _
  | cons request rest induction =>
      intro stored member
      exact induction _ (mem_accounts_after_iff.mpr (Or.inl member))

/-- The accounts that are stored are those that were added. -/
theorem mem_accounts_reached_iff {requests : List Request} :
    stored ∈ (reached guard requests).accounts ↔ ∃ customerId given,
      Added guard requests customerId given ∧ stored = given.stored customerId := by
  constructor
  · intro member
    induction requests using List.reverseRecOn with
    | nil => nomatch member
    | append_singleton requests request induction =>
        rw [reached_append, List.foldl_cons, List.foldl_nil,
          Ledger.mem_accounts_after_iff] at member
        rcases member with before | ⟨customerId, given, adds, same⟩
        · rcases induction before with
            ⟨customerId, given, ⟨earlier, other, later, rfl, adds⟩, same⟩
          exact ⟨customerId, given, ⟨earlier, other, later ++ [request], by simp, adds⟩, same⟩
        · exact ⟨customerId, given, ⟨requests, request, [], rfl, adds⟩, same⟩
  · intro added
    rcases added with ⟨customerId, given, ⟨earlier, request, later, rfl, adds⟩, same⟩
    rw [reached_append, List.foldl_cons]
    exact Ledger.subset_accounts_foldl _ later
      (Ledger.mem_accounts_after_iff.mpr (Or.inr ⟨customerId, given, adds, same⟩))

end

namespace Ledger

variable {ledger : Ledger} {journal : List Transaction}

/-! ## Balances and histories -/

private theorem Holds.exactBalance_eq_sum (holds : ledger.Holds journal) (accountId : AccountId) :
    ledger.exactBalance accountId = (journal.map (·.effectOn accountId)).sum := by
  have parts : movementsOf ledger.lines accountId =
      journal.flatMap fun transaction => movementsOf transaction.kept accountId := by
    rw [holds.lines, movementsOf, List.filter_flatMap, List.map_flatMap]
    rfl
  rw [exactBalance, parts, exactTotal_flatMap]
  simp only [Transaction.effectOn_eq_exactTotal_movementsOf]

/-- The exact balance of an account is what the transactions of its history add up to. -/
theorem Holds.exactBalance_eq_sum_history (holds : ledger.Holds journal) (sound : ledger.Sound)
    (accountId : AccountId) :
    ledger.exactBalance accountId =
      ((ledger.history accountId).map (·.effectOn accountId)).sum := by
  rw [holds.exactBalance_eq_sum, ((holds.history_perm sound accountId).map _).sum_eq]
  exact sum_eq_sum_filter fun _ _ untouched => Transaction.effectOn_of_not_touches untouched

/-! ## What is shown of an account -/

private theorem shown_eq {customerId : CustomerId} {given : Account} {balance : Cents}
    (found : ledger.balanceOf? given.id = some balance) :
    ledger.shown (given.stored customerId) =
      { given with
        customerId
        balance
        balanceAvailable := balance
        balancePending := Cents.zero } := by
  have same : ledger.balanceOf? (given.stored customerId).id = some balance := found
  rw [shown, same]
  rfl

variable {account : Account}

/-- Of the accounts of its customer, only the account itself has its identifier. -/
private theorem Sound.filter_shown_eq (sound : ledger.Sound) (stored : account ∈ ledger.accounts) :
    ((ledger.accounts.filter (·.customerId == account.customerId)).map ledger.shown).filter
      (·.id == account.id) = [ledger.shown account] := by
  have kept : ledger.accounts.filter (fun other =>
      other.id == account.id && other.customerId == account.customerId) = [account] := by
    apply filter_eq_singleton sound.accountIds stored
    · simp
    · intro other met
      exact beq_iff_eq.mp (Bool.and_eq_true_iff.mp met).1
  have same : ((fun other : Account => other.id == account.id) ∘ ledger.shown) =
      fun other => other.id == account.id := rfl
  rw [List.filter_map, same, List.filter_filter, kept]
  rfl

/-- An account is the only one of its numbers, so it is found by them and its type. -/
private theorem Sound.find?_numbers_eq (sound : ledger.Sound) (stored : account ∈ ledger.accounts) :
    (ledger.accounts.find? fun other =>
      other.accountNumber == account.accountNumber &&
        other.routingNumber == account.routingNumber &&
        other.accountType == account.accountType) = some account := by
  cases searched : ledger.accounts.find? fun other =>
      other.accountNumber == account.accountNumber &&
        other.routingNumber == account.routingNumber &&
        other.accountType == account.accountType with
  | none =>
      have passedOver := List.find?_eq_none.mp searched account stored
      simp at passedOver
  | some other =>
      have matched := List.find?_some searched
      simp only [Bool.and_eq_true, beq_iff_eq] at matched
      rcases matched with ⟨⟨number, routing⟩, _⟩
      rw [List.inj_on_of_nodup_map sound.accountNumbers (List.mem_of_find?_eq_some searched)
        stored (by rw [number, routing])]

theorem Sound.findAccount_of_mem (sound : ledger.Sound) (stored : account ∈ ledger.accounts) :
    ledger.findAccount account.accountNumber account.routingNumber account.accountType =
      (ledger.readAccount account).map some := by
  rw [findAccount, sound.find?_numbers_eq stored]

/-! ## Reading where all balances can be computed -/

section

variable (computable : ∀ account ∈ ledger.accounts, (ledger.balanceOf? account.id).isSome)

include computable

private theorem accountsById_of_computable (ids : List AccountId) :
    ledger.accountsById ids = .ok ((ids.filterMap ledger.account?).map ledger.shown) := by
  apply readAll_of_computable
  intro account member
  rcases List.mem_filterMap.mp member with ⟨id, _, found⟩
  exact computable account (account?_mem found)

private theorem accountsOfCustomer_of_computable (customerId : CustomerId) :
    ledger.accountsOfCustomer customerId =
      .ok ((ledger.accounts.filter (·.customerId == customerId)).map ledger.shown) := by
  apply readAll_of_computable
  intro account member
  exact computable account (List.mem_filter.mp member).1

private theorem findAccount_of_computable (accountNumber routingNumber : String)
    (accountType : AccountType) :
    ledger.findAccount accountNumber routingNumber accountType =
      .ok ((ledger.accounts.find? fun account =>
        account.accountNumber == accountNumber && account.routingNumber == routingNumber &&
          account.accountType == accountType).map ledger.shown) := by
  rw [findAccount]
  cases searched : ledger.accounts.find? fun account =>
      account.accountNumber == accountNumber && account.routingNumber == routingNumber &&
        account.accountType == accountType with
  | none => rfl
  | some account =>
      have stored := List.mem_of_find?_eq_some searched
      dsimp only
      rw [readAccount_of_computable (computable account stored)]
      rfl

/-- A stored account is read by its identifier, among those of its customer, and by its numbers
and type. -/
private theorem Sound.read_of_stored (sound : ledger.Sound) (stored : account ∈ ledger.accounts) :
    ledger.accountsById [account.id] = .ok [ledger.shown account] ∧
    (∃ listed, ledger.accountsOfCustomer account.customerId = .ok listed ∧
      listed.filter (·.id == account.id) = [ledger.shown account]) ∧
    ledger.findAccount account.accountNumber account.routingNumber account.accountType =
      .ok (some (ledger.shown account)) := by
  have read := readAccount_of_computable (computable account stored)
  refine ⟨?_, ⟨_, accountsOfCustomer_of_computable computable _, sound.filter_shown_eq stored⟩, ?_⟩
  · rw [sound.accountsById_of_mem stored, read]
    rfl
  · rw [sound.findAccount_of_mem stored, read]
    rfl

private theorem findAccount_eq_none_iff {accountNumber routingNumber : String}
    {accountType : AccountType} :
    ledger.findAccount accountNumber routingNumber accountType = .ok none ↔
      ∀ account ∈ ledger.accounts, ¬ (account.accountNumber = accountNumber ∧
        account.routingNumber = routingNumber ∧ account.accountType = accountType) := by
  rw [findAccount_of_computable computable, Except.ok.injEq, Option.map_eq_none_iff,
    List.find?_eq_none]
  simp only [Bool.and_eq_true, beq_iff_eq, and_assoc]

/-- Identifiers of no account are left out, and all others are read one by one. -/
private theorem forall₂_accountsById (ids : List AccountId) :
    List.Forall₂ (fun id record => ledger.accountsById [id] = .ok [record])
      (ids.filter fun id => ledger.accounts.any (·.id == id))
      ((ids.filterMap ledger.account?).map ledger.shown) := by
  induction ids with
  | nil => exact .nil
  | cons id rest induction =>
      have known : ledger.accounts.any (·.id == id) = (ledger.account? id).isSome := by
        rw [Bool.eq_iff_iff, isSome_account?_iff, List.any_eq_true]
        simp only [beq_iff_eq]
      rw [List.filter_cons, known]
      cases found : ledger.account? id with
      | none =>
          rw [List.filterMap_cons_none found]
          exact induction
      | some account =>
          rw [List.filterMap_cons_some found]
          refine .cons ?_ induction
          rw [accountsById_of_computable computable, List.filterMap_cons_some found]
          rfl

end

end Ledger

/-- On the ledger of any run on which all balances can be computed, an account is the same
however it is looked for: as it was given to be added, with what the transactions of its history
add up to for a balance. -/
theorem reads_agree (guard : OverdraftGuard) (requests : List Request)
    (computable : ∀ account ∈ (reached guard requests).accounts,
      ((reached guard requests).balanceOf? account.id).isSome) :
    let ledger := reached guard requests
    let reads := operations guard
    (∀ stored, stored ∈ ledger.accounts ↔ ∃ customerId given,
      Added guard requests customerId given ∧ stored = given.stored customerId) ∧
    (∀ customerId given, Added guard requests customerId given →
      ∃ (transactions : List Transaction) (balance : Cents),
      reads.history given.id ledger = (.ok transactions, ledger) ∧
      balance.value = (transactions.map (·.effectOn given.id)).sum ∧
      let record : Account := { given with
        customerId
        balance
        balanceAvailable := balance
        balancePending := Cents.zero }
      reads.accounts [given.id] ledger = (.ok [record], ledger) ∧
      (∃ listed, reads.accountsOfCustomer customerId ledger = (.ok listed, ledger) ∧
        listed.filter (·.id == given.id) = [record]) ∧
      reads.findAccount given.accountNumber given.routingNumber given.accountType ledger =
        (.ok (some record), ledger)) ∧
    (∀ ids, ∃ records, reads.accounts ids ledger = (.ok records, ledger) ∧
      List.Forall₂ (fun id record => reads.accounts [id] ledger = (.ok [record], ledger))
        (ids.filter fun id => ledger.accounts.any (·.id == id)) records) ∧
    ∀ accountNumber routingNumber accountType,
      reads.findAccount accountNumber routingNumber accountType ledger = (.ok none, ledger) ↔
        ∀ account ∈ ledger.accounts, ¬ (account.accountNumber = accountNumber ∧
          account.routingNumber = routingNumber ∧ account.accountType = accountType) := by
  intro ledger reads
  have built : ledger.Built guard (postings guard requests) := built_reached guard requests
  have sound := built.sound
  have answers {α : Type} {read : Except LedgerFault α} {answer : α} (same : read = .ok answer) :
      (read, ledger) = (.ok answer, ledger) := by rw [same]
  refine ⟨fun stored => mem_accounts_reached_iff, ?_, ?_, ?_⟩
  · intro customerId given added
    have stored : given.stored customerId ∈ ledger.accounts :=
      mem_accounts_reached_iff.mpr ⟨customerId, given, added, rfl⟩
    rcases Option.isSome_iff_exists.mp (computable _ stored) with ⟨balance, found⟩
    have total := built.holds.exactBalance_eq_sum_history sound given.id
    refine ⟨ledger.history given.id, balance, rfl, (Ledger.balanceOf?_value found).trans total, ?_⟩
    intro record
    have same : record = ledger.shown (given.stored customerId) := (Ledger.shown_eq found).symm
    rcases Ledger.Sound.read_of_stored computable sound stored with
      ⟨byId, ⟨listed, ofCustomer, own⟩, byNumbers⟩
    rw [same]
    exact ⟨answers byId, ⟨listed, answers ofCustomer, own⟩, answers byNumbers⟩
  · intro ids
    refine ⟨_, answers (Ledger.accountsById_of_computable computable ids), ?_⟩
    exact (Ledger.forall₂_accountsById computable ids).imp fun _ _ read => answers read
  · intro accountNumber routingNumber accountType
    rw [← Ledger.findAccount_eq_none_iff computable]
    exact ⟨fun read => (Prod.mk.inj read).1, answers⟩

/-- An account given with a balance and a customer of its own. -/
def boastfulAccount : Account :=
  { sampleAccount 12 "121042882" with
    customerId := ⟨.ofNat 2⟩
    balance := ⟨700, by decide, by decide⟩
    balancePending := ⟨7, by decide, by decide⟩ }

def boastfulRun : List Request :=
  [addSample 11 "121042882", .addAccount ⟨.ofNat 1⟩ boastfulAccount,
    .post sampleTransfer {} (.microsecondsInto2050 2)]

theorem reads_agree_boastfulRun :
    let ledger := reached sampleGuard boastfulRun
    (∀ account ∈ ledger.accounts, (ledger.balanceOf? account.id).isSome) ∧
      Added sampleGuard boastfulRun ⟨.ofNat 1⟩ boastfulAccount ∧
      ∃ balance : Cents, balance.value = 500 ∧
        (operations sampleGuard).accounts [boastfulAccount.id] ledger =
          (.ok [{ sampleAccount 12 "121042882" with
            balance
            balanceAvailable := balance }], ledger) := by
  intro ledger
  have computable : ∀ account ∈ ledger.accounts, (ledger.balanceOf? account.id).isSome := by
    decide
  have added : Added sampleGuard boastfulRun ⟨.ofNat 1⟩ boastfulAccount :=
    ⟨[addSample 11 "121042882"], _, _, rfl, rfl, by decide⟩
  refine ⟨computable, added, ?_⟩
  rcases (reads_agree sampleGuard boastfulRun computable).2.1 ⟨.ofNat 1⟩ boastfulAccount added with
    ⟨transactions, balance, listed, total, byId, _⟩
  have history : ledger.history boastfulAccount.id = [sampleTransfer] := by decide +kernel
  have same : transactions = [sampleTransfer] :=
    (Except.ok.inj (congrArg Prod.fst listed)).symm.trans history
  rw [same] at total
  exact ⟨balance, total, byId⟩

end DepositLedger.Memory
