import DepositLedger.Proofs.Verdict
import Mathlib.Data.List.Forall2

/-! Reading accounts back from a ledger in memory, and what a posting sees of them:
which of its accounts are missing, and whether its funds are checked. -/

namespace DepositLedger.Memory.Ledger

variable (ledger : Ledger)

/-- The balance of what is committed on an account, if it can be computed. -/
def balanceOf? (accountId : AccountId) : Option Cents :=
  balance? (movementsOf ledger.lines accountId)

/-- The exact sum of what is committed on an account. -/
def exactBalance (accountId : AccountId) : Int :=
  exactTotal (movementsOf ledger.lines accountId)

/-- A transaction has no ACH debit, or the first one is on an account that the guard
protects. -/
def GuardsFunds (guard : OverdraftGuard) (transaction : Transaction) : Prop :=
  ∀ line ∈ transaction.lines.find? (·.purpose == .achDebit),
    ∃ account ∈ ledger.account? line.accountId, guard.protects account = true

instance (guard : OverdraftGuard) (transaction : Transaction) :
    Decidable (ledger.GuardsFunds guard transaction) :=
  inferInstanceAs (Decidable (∀ line ∈ transaction.lines.find? (·.purpose == .achDebit),
    ∃ account ∈ ledger.account? line.accountId, guard.protects account = true))

variable {ledger}

theorem account?_id {id : AccountId} {account : Account}
    (found : ledger.account? id = some account) : account.id = id := by
  simpa using List.find?_some found

theorem account?_mem {id : AccountId} {account : Account}
    (found : ledger.account? id = some account) : account ∈ ledger.accounts :=
  List.mem_of_find?_eq_some found

theorem isSome_account?_iff {id : AccountId} :
    (ledger.account? id).isSome ↔ ∃ account ∈ ledger.accounts, account.id = id := by
  simp [account?]

theorem balanceOf?_value {accountId : AccountId} {balance : Cents}
    (found : ledger.balanceOf? accountId = some balance) :
    balance.value = ledger.exactBalance accountId :=
  balance?_value found

theorem readAccount_of_some {account : Account} {balance : Cents}
    (found : ledger.balanceOf? account.id = some balance) :
    ledger.readAccount account = .ok (account.showing (.settled balance)) := by
  rw [balanceOf?] at found
  rw [readAccount, reportedBalance, settle, found]
  rfl

theorem readAccount_of_none {account : Account} (lost : ledger.balanceOf? account.id = none) :
    ledger.readAccount account = .error (.balanceOverflow account.id) := by
  rw [balanceOf?] at lost
  rw [readAccount, reportedBalance, settle, lost]
  rfl

private theorem readAccount_ok_iff {account shown : Account} :
    ledger.readAccount account = .ok shown ↔
      ∃ balance, ledger.balanceOf? account.id = some balance ∧
        shown = account.showing (.settled balance) := by
  cases computed : ledger.balanceOf? account.id with
  | none => simp [readAccount_of_none computed]
  | some balance =>
      rw [readAccount_of_some computed]
      constructor
      · intro read
        cases read
        exact ⟨balance, rfl, rfl⟩
      · intro found
        rcases found with ⟨_, same, rfl⟩
        cases same
        rfl

private theorem readAll_ok_iff {accounts shown : List Account} :
    accounts.mapM ledger.readAccount = .ok shown ↔
      List.Forall₂ (fun account read => ledger.readAccount account = .ok read) accounts shown := by
  induction accounts generalizing shown with
  | nil =>
      rw [List.mapM_nil, List.forall₂_nil_left_iff]
      exact ⟨fun same => by cases same; rfl, fun same => by rw [same]; rfl⟩
  | cons account rest induction =>
      simp only [List.mapM_cons, List.forall₂_cons_left_iff, ← induction]
      cases ledger.readAccount account with
      | error fault => simp [bind, Except.bind]
      | ok read =>
          cases rest.mapM ledger.readAccount with
          | error fault => simp [bind, Except.bind]
          | ok reads => simp [bind, Except.bind, pure, Except.pure, eq_comm]

/-- Accounts are read together if each can be read. -/
theorem exists_readAll_iff {accounts : List Account} :
    (∃ shown, accounts.mapM ledger.readAccount = .ok shown) ↔
      ∀ account ∈ accounts, (ledger.balanceOf? account.id).isSome := by
  induction accounts with
  | nil => exact ⟨fun _ _ member => (List.not_mem_nil member).elim, fun _ => ⟨[], rfl⟩⟩
  | cons account rest induction =>
      rw [List.forall_mem_cons, ← induction]
      simp only [readAll_ok_iff, List.forall₂_cons_left_iff]
      constructor
      · intro all
        rcases all with ⟨_, read, reads, readable, others, rfl⟩
        rcases readAccount_ok_iff.mp readable with ⟨balance, computed, _⟩
        exact ⟨by rw [computed]; rfl, reads, others⟩
      · intro each
        rcases each with ⟨computable, reads, others⟩
        rcases Option.isSome_iff_exists.mp computable with ⟨balance, computed⟩
        exact ⟨_, _, _, readAccount_of_some computed, others, rfl⟩

/-- The account as it is shown, if its balance can be computed. -/
def shown (ledger : Ledger) (account : Account) : Account :=
  account.showing (.settled ((ledger.balanceOf? account.id).getD .zero))

theorem readAccount_of_computable {account : Account}
    (computable : (ledger.balanceOf? account.id).isSome) :
    ledger.readAccount account = .ok (ledger.shown account) := by
  rcases Option.isSome_iff_exists.mp computable with ⟨balance, found⟩
  rw [readAccount_of_some found, shown, found, Option.getD_some]

theorem readAll_of_computable {accounts : List Account}
    (computable : ∀ account ∈ accounts, (ledger.balanceOf? account.id).isSome) :
    accounts.mapM ledger.readAccount = .ok (accounts.map ledger.shown) := by
  rw [readAll_ok_iff, List.forall₂_map_right_iff, List.forall₂_same]
  exact fun account member => readAccount_of_computable (computable account member)

/-- Reading stops at the first account whose balance cannot be computed. -/
theorem readAll_of_lost {accounts : List Account}
    (lost : ∃ account ∈ accounts, ledger.balanceOf? account.id = none) :
    ∃ account ∈ accounts, ledger.balanceOf? account.id = none ∧
      accounts.mapM ledger.readAccount = .error (.balanceOverflow account.id) := by
  induction accounts with
  | nil =>
      rcases lost with ⟨_, member, _⟩
      nomatch member
  | cons account rest induction =>
      rw [List.mapM_cons]
      cases computed : ledger.balanceOf? account.id with
      | none =>
          refine ⟨account, List.mem_cons_self, computed, ?_⟩
          rw [readAccount_of_none computed]
          rfl
      | some balance =>
          have lostLater : ∃ other ∈ rest, ledger.balanceOf? other.id = none := by
            rcases lost with ⟨other, member, none⟩
            rcases List.mem_cons.mp member with rfl | later
            · rw [computed] at none
              cases none
            · exact ⟨other, later, none⟩
          rcases induction lostLater with ⟨other, member, none, read⟩
          refine ⟨other, List.mem_cons_of_mem _ member, none, ?_⟩
          rw [readAccount_of_some computed, read]
          rfl

/-- Reading changes neither which account it is nor where it is held. -/
private theorem find?_readAll {accounts shown : List Account}
    (read : accounts.mapM ledger.readAccount = .ok shown) (id : AccountId) :
    (shown.find? (·.id == id)).map Account.routingNumber =
      (accounts.find? (·.id == id)).map Account.routingNumber := by
  have pairs := readAll_ok_iff.mp read
  clear read
  induction pairs with
  | nil => rfl
  | cons readable _ induction =>
      rcases readAccount_ok_iff.mp readable with ⟨balance, _, rfl⟩
      rw [List.find?_cons, List.find?_cons]
      simp only [Account.showing]
      split
      · rfl
      · exact induction

private theorem find?_filterMap_account? {ids : List AccountId} {id : AccountId}
    (member : id ∈ ids) :
    (ids.filterMap ledger.account?).find? (·.id == id) = ledger.account? id := by
  have found_eq : ∀ account ∈ ids.filterMap ledger.account?, account.id = id →
      ledger.account? id = some account := by
    intro account accountMember same
    rcases List.mem_filterMap.mp accountMember with ⟨other, _, found⟩
    have otherSame : other = id := (account?_id found).symm.trans same
    exact otherSame ▸ found
  cases searched : (ids.filterMap ledger.account?).find? (·.id == id) with
  | some account =>
      have same : account.id = id := by simpa using List.find?_some searched
      exact (found_eq account (List.mem_of_find?_eq_some searched) same).symm
  | none =>
      cases stored : ledger.account? id with
      | none => rfl
      | some account =>
          have listed : account ∈ ids.filterMap ledger.account? :=
            List.mem_filterMap.mpr ⟨id, member, stored⟩
          have unlisted := List.find?_eq_none.mp searched account listed
          exact (unlisted (by simpa using account?_id stored)).elim

/-! ## The accounts of a posting -/

variable {ids : List AccountId} {accounts : List Account}

private theorem find?_accountsById (read : ledger.accountsById ids = .ok accounts) {id : AccountId}
    (member : id ∈ ids) :
    (accounts.find? (·.id == id)).map Account.routingNumber =
      (ledger.account? id).map Account.routingNumber := by
  rw [find?_readAll read, find?_filterMap_account? member]

private theorem isSome_find?_accountsById (read : ledger.accountsById ids = .ok accounts)
    {id : AccountId} (member : id ∈ ids) :
    (accounts.find? (·.id == id)).isSome = (ledger.account? id).isSome := by
  rw [← Option.isSome_map (f := Account.routingNumber), find?_accountsById read member,
    Option.isSome_map]

theorem firstMissing?_eq_none_iff (read : ledger.accountsById ids = .ok accounts) :
    firstMissing? ids accounts = none ↔ ∀ id ∈ ids, (ledger.account? id).isSome := by
  rw [firstMissing?, List.find?_eq_none]
  apply forall₂_congr
  intro id member
  rw [← isSome_find?_accountsById read member, List.find?_isSome]
  simp

/-- The accounts of a posting are found and readable exactly if each of them is stored
and its balance can be computed. -/
theorem exists_accountsById_iff :
    (∃ accounts, ledger.accountsById ids = .ok accounts ∧ firstMissing? ids accounts = none) ↔
      ∀ id ∈ ids, (ledger.account? id).isSome ∧ (ledger.balanceOf? id).isSome := by
  constructor
  · intro found id member
    rcases found with ⟨accounts, read, noneMissing⟩
    have stored := (firstMissing?_eq_none_iff read).mp noneMissing id member
    rcases Option.isSome_iff_exists.mp stored with ⟨account, found⟩
    have readable := exists_readAll_iff.mp ⟨accounts, read⟩ account
      (List.mem_filterMap.mpr ⟨id, member, found⟩)
    exact ⟨stored, account?_id found ▸ readable⟩
  · intro each
    have readable : ∀ account ∈ ids.filterMap ledger.account?,
        (ledger.balanceOf? account.id).isSome := by
      intro account accountMember
      rcases List.mem_filterMap.mp accountMember with ⟨id, member, found⟩
      exact account?_id found ▸ (each id member).2
    rcases exists_readAll_iff.mpr readable with ⟨accounts, read⟩
    exact ⟨accounts, read, (firstMissing?_eq_none_iff read).mpr fun id member => (each id member).1⟩

/-- Where the accounts of all lines are known, the first ACH debit decides. -/
private theorem debitedAccount?_eq {lines : List TransactionLine}
    (known : ∀ line ∈ lines, (accounts.find? (·.id == line.accountId)).isSome) :
    OverdraftGuard.debitedAccount? accounts lines =
      (lines.find? (·.purpose == .achDebit)).bind fun line =>
        accounts.find? (·.id == line.accountId) := by
  induction lines with
  | nil => rfl
  | cons line rest induction =>
      rcases List.forall_mem_cons.mp known with ⟨lineKnown, restKnown⟩
      rcases Option.isSome_iff_exists.mp lineKnown with ⟨account, found⟩
      have later := induction restKnown
      rw [OverdraftGuard.debitedAccount?] at later ⊢
      rw [List.filter_cons, List.find?_cons]
      cases line.purpose == Purpose.achDebit with
      | true => simp [found]
      | false => exact later

theorem checksFunds_iff {transaction : Transaction} {guard : OverdraftGuard}
    (read : ledger.accountsById transaction.touchedAccounts = .ok accounts)
    (noneMissing : firstMissing? transaction.touchedAccounts accounts = none) :
    guard.checksFunds accounts transaction.lines = true ↔
      ledger.GuardsFunds guard transaction := by
  have touched : ∀ line ∈ transaction.lines, line.accountId ∈ transaction.touchedAccounts :=
    fun line member => List.mem_eraseDups.mpr (List.mem_map_of_mem member)
  have stored := (firstMissing?_eq_none_iff read).mp noneMissing
  have known : ∀ line ∈ transaction.lines,
      (accounts.find? (·.id == line.accountId)).isSome := by
    intro line member
    rw [isSome_find?_accountsById read (touched line member)]
    exact stored _ (touched line member)
  rw [OverdraftGuard.checksFunds, debitedAccount?_eq known, GuardsFunds]
  cases searched : transaction.lines.find? (·.purpose == .achDebit) with
  | none => simp
  | some line =>
      have member := List.mem_of_find?_eq_some searched
      rcases Option.isSome_iff_exists.mp (stored _ (touched line member)) with
        ⟨account, accountFound⟩
      rcases Option.isSome_iff_exists.mp (known line member) with ⟨seen, seenFound⟩
      have routing := find?_accountsById read (touched line member)
      rw [accountFound, seenFound] at routing
      simp only [Option.map_some, Option.some.injEq] at routing
      simp [seenFound, accountFound, OverdraftGuard.protects, routing]

end DepositLedger.Memory.Ledger
