import DepositLedger.Proofs.Acceptance

/-! Opening an account with money on it, which adds the account, posts a deposit and reads
the account back. A deposit that is refused leaves the account behind; once it is accepted
nothing can fail, as there was nothing on the account before. -/

namespace DepositLedger.Memory.Ledger

variable {ledger added : Ledger} {guard : OverdraftGuard} {customerId : CustomerId}
  {account : Account} {amount : Cents} {stamp : Stamp}

/-- A new account has no movements. -/
theorem Sound.balanceOf?_addAccount (sound : ledger.Sound)
    (stored : ledger.addAccount customerId account = .ok added) :
    added.balanceOf? account.id = some Cents.zero := by
  rcases addAccount_ok_iff.mp stored with ⟨_, newId, rfl⟩
  have none : movementsOf ledger.lines account.id = [] := sound.movementsOf_eq_nil newId
  rw [balanceOf?, none, balance?_nil]

theorem addAccount_mem (stored : ledger.addAccount customerId account = .ok added) :
    account.stored customerId ∈ added.accounts := by
  rcases addAccount_ok_iff.mp stored with ⟨_, _, rfl⟩
  exact List.mem_append_right _ (List.mem_singleton_self _)

/-- After the first deposit an account has the amount of it. -/
theorem Sound.balanceOf?_openingDeposit (sound : ledger.Sound)
    (stored : ledger.addAccount customerId account = .ok added)
    (accepted : added.Accepts guard (Operations.openingDeposit account amount stamp)
      { initialDeposit := true }) :
    (added.posted (Operations.openingDeposit account amount stamp)).balanceOf? account.id =
      some amount := by
  have member : (⟨⟨.achCredit, amount⟩, account.id⟩ : TransactionLine) ∈
      (Operations.openingDeposit account amount stamp).lines := List.mem_singleton_self _
  have credited := (Transaction.shaped_of_checkFor accepted.checked).lines _ member
  rw [balanceOf?_posted_of_mem credited accepted.distinct member
    (sound.balanceOf?_addAccount stored)]
  have value : Cents.zero.value + amount.value = amount.value := Int.zero_add _
  exact (congrArg Cents.ofInt? value).trans (Cents.ofInt?_value amount)

/-- The opened account is read back with the first money on it. -/
theorem Sound.accountsById_openingDeposit (sound : ledger.Sound)
    (stored : ledger.addAccount customerId account = .ok added)
    (accepted : added.Accepts guard (Operations.openingDeposit account amount stamp)
      { initialDeposit := true }) :
    (added.posted (Operations.openingDeposit account amount stamp)).accountsById [account.id] =
      .ok [(account.stored customerId).showing (.settled amount)] := by
  have member := addAccount_mem stored
  have balance : (added.posted (Operations.openingDeposit account amount stamp)).balanceOf?
      (account.stored customerId).id = some amount :=
    sound.balanceOf?_openingDeposit stored accepted
  have byId := ((sound.addAccount stored).posted accepted).accountsById_of_mem member
  rw [readAccount_of_some balance] at byId
  exact byId

/-- What opening an account answers and leaves. -/
theorem Sound.openWithDeposit_apply (sound : ledger.Sound) :
    (operations guard).openWithDeposit customerId account amount stamp ledger =
      match ledger.addAccount customerId account with
      | .error fault => (.error fault, ledger)
      | .ok added =>
        match added.verdict guard (Operations.openingDeposit account amount stamp)
            { initialDeposit := true } with
        | .error fault => (.error fault, added)
        | .ok () =>
          (.ok ((account.stored customerId).showing (.settled amount)),
            added.posted (Operations.openingDeposit account amount stamp)) := by
  have adding : (operations guard).addAccount customerId account ledger = _ :=
    addAccount_apply ledger customerId account
  cases stored : ledger.addAccount customerId account with
  | error fault =>
      rw [stored] at adding
      exact Operations.openWithDeposit_of_refused adding
  | ok added =>
      rw [stored] at adding
      have posting := added.post_apply guard (Operations.openingDeposit account amount stamp)
        { initialDeposit := true } stamp.recordedAt
      dsimp only
      rcases outcome : added.verdict guard (Operations.openingDeposit account amount stamp)
        { initialDeposit := true } with fault | ⟨⟨⟩⟩
      · rw [outcome] at posting
        exact Operations.openWithDeposit_of_not_posted adding posting
      · rw [outcome] at posting
        have accepted := (sound.addAccount stored).verdict_ok_iff_accepts.mp outcome
        have read := congrArg (·, added.posted (Operations.openingDeposit account amount stamp))
          (sound.accountsById_openingDeposit stored accepted)
        exact Operations.openWithDeposit_of_posted adding posting read

end DepositLedger.Memory.Ledger
