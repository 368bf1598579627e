import DepositLedger.Proofs.Lookup
import DepositLedger.Proofs.Operations
import Mathlib.Data.List.Induction

/-! Runs: a ledger in memory after any number of requests, whether they succeeded or
failed, and the postings that were accepted on the way. However many requests there
are, a ledger is built in two kinds of steps: an account is added, or a transaction
is posted. -/

namespace DepositLedger.Memory

/-- What is asked of a ledger to change it. The stamps are what the world around gives. -/
inductive Request where
  | addAccount (customerId : CustomerId) (account : Account)
  | openAccount (customerId : CustomerId) (account : Account) (amount : Cents) (stamp : Stamp)
  | post (transaction : Transaction) (options : PostingOptions) (recordedAt : Timestamp)
  | reverse (id : TransactionId) (stamp : Stamp)

/-- A posting that was accepted, and the ledger that it was accepted on. -/
structure AcceptedPosting where
  ledger : Ledger
  transaction : Transaction
  options : PostingOptions

/-- A request may overdraw accounts only if it posts with leave to. -/
def Request.allowsOverdraft : Request → Bool
  | .post _ options _ => options.allowOverdraft
  | _ => false

namespace Ledger

/-- What is left after a request, whatever its answer. -/
def after (guard : OverdraftGuard) (ledger : Ledger) : Request → Ledger
  | .addAccount customerId account =>
    ((operations guard).addAccount customerId account ledger).2
  | .openAccount customerId account amount stamp =>
    ((operations guard).openWithDeposit customerId account amount stamp ledger).2
  | .post transaction options recordedAt =>
    ((operations guard).post transaction options recordedAt ledger).2
  | .reverse id stamp => ((operations guard).reverse id stamp ledger).2

/-- The transaction as an accepted posting, if it is posted. -/
def accepted? (guard : OverdraftGuard) (ledger : Ledger) (transaction : Transaction)
    (options : PostingOptions) (recordedAt : Timestamp) : Option AcceptedPosting :=
  match ((operations guard).post transaction options recordedAt ledger).1 with
  | .ok () => some ⟨ledger, transaction, options⟩
  | .error _ => none

/-- The posting that a request makes, if it makes one and it is accepted. -/
def acceptedBy? (guard : OverdraftGuard) (ledger : Ledger) : Request → Option AcceptedPosting
  | .addAccount _ _ => none
  | .openAccount customerId account amount stamp =>
    match ledger.addAccount customerId account with
    | .error _ => none
    | .ok added =>
      added.accepted? guard (Operations.openingDeposit account amount stamp)
        { initialDeposit := true } stamp.recordedAt
  | .post transaction options recordedAt =>
    ledger.accepted? guard transaction options recordedAt
  | .reverse id stamp =>
    match ledger.transaction? id with
    | none => none
    | some posted =>
      ledger.accepted? guard (posted.reversal stamp.id stamp.timestamp) {} stamp.recordedAt

end Ledger

/-- The ledger that a run of requests leaves, from an empty one. -/
def reached (guard : OverdraftGuard) (requests : List Request) : Ledger :=
  requests.foldl (Ledger.after guard) {}

/-- The postings that are accepted in a run of requests, from a given ledger. -/
def postingsFrom (guard : OverdraftGuard) : Ledger → List Request → List AcceptedPosting
  | _, [] => []
  | ledger, request :: rest =>
    (ledger.acceptedBy? guard request).toList ++
      postingsFrom guard (ledger.after guard request) rest

/-- The postings that are accepted in a run of requests, from an empty ledger. -/
def postings (guard : OverdraftGuard) (requests : List Request) : List AcceptedPosting :=
  postingsFrom guard {} requests

/-- A ledger built by adding accounts and posting transactions, with its postings. -/
inductive Ledger.Built (guard : OverdraftGuard) : Ledger → List AcceptedPosting → Prop
  | empty : Built guard {} []
  | account {ledger added : Ledger} {earlier : List AcceptedPosting} {customerId : CustomerId}
      {account : Account} (built : Built guard ledger earlier)
      (stored : ledger.addAccount customerId account = .ok added) : Built guard added earlier
  | posting {ledger : Ledger} {earlier : List AcceptedPosting} {transaction : Transaction}
      {options : PostingOptions} (built : Built guard ledger earlier)
      (passed : ledger.verdict guard transaction options = .ok ()) :
      Built guard (ledger.posted transaction) (earlier ++ [⟨ledger, transaction, options⟩])

section

variable {guard : OverdraftGuard}

theorem reached_append (requests later : List Request) :
    reached guard (requests ++ later) = later.foldl (Ledger.after guard) (reached guard requests) :=
  List.foldl_append

theorem postingsFrom_append (ledger : Ledger) (requests later : List Request) :
    postingsFrom guard ledger (requests ++ later) =
      postingsFrom guard ledger requests ++
        postingsFrom guard (requests.foldl (Ledger.after guard) ledger) later := by
  induction requests generalizing ledger with
  | nil => rfl
  | cons request rest induction =>
      rw [List.cons_append, postingsFrom, postingsFrom, List.foldl_cons, induction,
        List.append_assoc]

theorem postings_concat (requests : List Request) (request : Request) :
    postings guard (requests ++ [request]) =
      postings guard requests ++
        ((reached guard requests).acceptedBy? guard request).toList := by
  rw [postings, postingsFrom_append, postings]
  simp [postingsFrom, reached]

theorem addAccount_apply (ledger : Ledger) (customerId : CustomerId) (account : Account) :
    (operations guard).addAccount customerId account ledger =
      match ledger.addAccount customerId account with
      | .error fault => (.error fault, ledger)
      | .ok added => (.ok (), added) := by
  simp only [operations, Action.alter]
  cases ledger.addAccount customerId account <;> rfl

theorem reverse_apply (ledger : Ledger) (id : TransactionId) (stamp : Stamp) :
    (operations guard).reverse id stamp ledger =
      match ledger.transaction? id with
      | none => (.error (.transactionNotFound id), ledger)
      | some posted =>
        match ledger.verdict guard (posted.reversal stamp.id stamp.timestamp) {} with
        | .error fault => (.error fault, ledger)
        | .ok () =>
          (.ok (posted.reversal stamp.id stamp.timestamp),
            ledger.posted (posted.reversal stamp.id stamp.timestamp)) := by
  have read : (operations guard).transaction? id ledger =
      (.ok (ledger.transaction? id), ledger) := rfl
  cases found : ledger.transaction? id with
  | none =>
      rw [found] at read
      exact Operations.reverse_of_none read
  | some posted =>
      rw [found] at read
      rw [Operations.reverse_of_some read, Ledger.post_apply]
      dsimp only
      rcases ledger.verdict guard (posted.reversal stamp.id stamp.timestamp) {} with
        fault | ⟨⟨⟩⟩ <;> rfl

private theorem after_addAccount (ledger : Ledger) (customerId : CustomerId) (account : Account) :
    ledger.after guard (.addAccount customerId account) =
      match ledger.addAccount customerId account with
      | .error _ => ledger
      | .ok added => added := by
  rw [Ledger.after, addAccount_apply]
  cases ledger.addAccount customerId account <;> rfl

/-- Reading the opened account back leaves what the deposit left. -/
theorem after_openAccount (ledger : Ledger) (customerId : CustomerId) (account : Account)
    (amount : Cents) (stamp : Stamp) :
    ledger.after guard (.openAccount customerId account amount stamp) =
      match ledger.addAccount customerId account with
      | .error _ => ledger
      | .ok added =>
        ((operations guard).post (Operations.openingDeposit account amount stamp)
          { initialDeposit := true } stamp.recordedAt added).2 := by
  rw [Ledger.after, Operations.openWithDeposit, Action.bind_apply, addAccount_apply]
  cases ledger.addAccount customerId account with
  | error fault => rfl
  | ok added =>
      simp only [Action.bind_apply]
      rcases (operations guard).post (Operations.openingDeposit account amount stamp)
        { initialDeposit := true } stamp.recordedAt added with ⟨_ | _, left⟩
      · rfl
      · simp only [operations, Action.inspect]
        rcases left.accountsById [account.id] with _ | (_ | _) <;> rfl

theorem after_reverse (ledger : Ledger) (id : TransactionId) (stamp : Stamp) :
    ledger.after guard (.reverse id stamp) =
      match ledger.transaction? id with
      | none => ledger
      | some posted =>
        ((operations guard).post (posted.reversal stamp.id stamp.timestamp) {}
          stamp.recordedAt ledger).2 := by
  rw [Ledger.after, reverse_apply]
  cases ledger.transaction? id with
  | none => rfl
  | some posted =>
      simp only [Ledger.post_apply]
      rcases ledger.verdict guard (posted.reversal stamp.id stamp.timestamp) {} with
        fault | ⟨⟨⟩⟩ <;> rfl

/-- What an offered transaction does: it is accepted and added, or it changes nothing. -/
def Ledger.Offers (guard : OverdraftGuard) (ledger left : Ledger) (options : PostingOptions)
    (accepted : Option AcceptedPosting) : Prop :=
  (accepted = none ∧ left = ledger) ∨
    ∃ transaction, ledger.verdict guard transaction options = .ok () ∧
      accepted = some ⟨ledger, transaction, options⟩ ∧ left = ledger.posted transaction

private theorem offers_post (ledger : Ledger) (transaction : Transaction) (options : PostingOptions)
    (recordedAt : Timestamp) :
    ledger.Offers guard ((operations guard).post transaction options recordedAt ledger).2 options
      (ledger.accepted? guard transaction options recordedAt) := by
  rw [Ledger.accepted?, Ledger.post_apply]
  rcases outcome : ledger.verdict guard transaction options with fault | ⟨⟨⟩⟩
  · exact Or.inl ⟨rfl, rfl⟩
  · exact Or.inr ⟨transaction, outcome, rfl, rfl⟩

/-- A request adds an account or none, and then offers a transaction or none. -/
theorem after_cases (guard : OverdraftGuard) (ledger : Ledger) (request : Request) :
    ∃ between options,
      (between = ledger ∨
        ∃ customerId account, ledger.addAccount customerId account = .ok between) ∧
      between.Offers guard (ledger.after guard request) options
        (ledger.acceptedBy? guard request) ∧
      (options.allowOverdraft = true → request.allowsOverdraft = true) := by
  cases request with
  | addAccount customerId account =>
      rw [after_addAccount, Ledger.acceptedBy?]
      cases stored : ledger.addAccount customerId account with
      | error fault => exact ⟨ledger, {}, Or.inl rfl, Or.inl ⟨rfl, rfl⟩, (nomatch ·)⟩
      | ok added =>
          exact ⟨added, {}, Or.inr ⟨_, _, stored⟩, Or.inl ⟨rfl, rfl⟩, (nomatch ·)⟩
  | openAccount customerId account amount stamp =>
      rw [after_openAccount, Ledger.acceptedBy?]
      cases stored : ledger.addAccount customerId account with
      | error fault => exact ⟨ledger, {}, Or.inl rfl, Or.inl ⟨rfl, rfl⟩, (nomatch ·)⟩
      | ok added => exact ⟨added, _, Or.inr ⟨_, _, stored⟩, offers_post added _ _ _, (nomatch ·)⟩
  | post transaction options recordedAt =>
      exact ⟨ledger, options, Or.inl rfl, offers_post ledger transaction options recordedAt, id⟩
  | reverse id stamp =>
      rw [after_reverse, Ledger.acceptedBy?]
      cases ledger.transaction? id with
      | none => exact ⟨ledger, {}, Or.inl rfl, Or.inl ⟨rfl, rfl⟩, (nomatch ·)⟩
      | some posted => exact ⟨ledger, _, Or.inl rfl, offers_post ledger _ _ _, (nomatch ·)⟩

/-- Every run builds its ledger in steps. -/
theorem built_reached (guard : OverdraftGuard) (requests : List Request) :
    (reached guard requests).Built guard (postings guard requests) := by
  induction requests using List.reverseRecOn with
  | nil => exact .empty
  | append_singleton requests request built =>
      rw [postings_concat, reached_append, List.foldl_cons, List.foldl_nil]
      rcases after_cases guard (reached guard requests) request with
        ⟨between, options, start, offers, _⟩
      have builtBetween : between.Built guard (postings guard requests) := by
        rcases start with rfl | ⟨customerId, account, stored⟩
        · exact built
        · exact built.account stored
      rcases offers with ⟨none, left⟩ | ⟨transaction, passed, accepted, left⟩
      · rw [none, left, Option.toList_none, List.append_nil]
        exact builtBetween
      · rw [accepted, left]
        exact builtBetween.posting passed

/-- Each accepted posting is the last thing that happened in some part of the run. -/
theorem exists_reached_eq_posted {requests : List Request} {posting : AcceptedPosting}
    (member : posting ∈ postings guard requests) :
    ∃ earlier, earlier <+: requests ∧
      reached guard earlier = posting.ledger.posted posting.transaction := by
  induction requests using List.reverseRecOn with
  | nil => nomatch member
  | append_singleton requests request induction =>
      rw [postings_concat] at member
      rcases List.mem_append.mp member with before | last
      · rcases induction before with ⟨earlier, initial, left⟩
        exact ⟨earlier, initial.trans (List.prefix_append _ _), left⟩
      · refine ⟨requests ++ [request], List.prefix_rfl, ?_⟩
        rw [reached_append, List.foldl_cons, List.foldl_nil]
        rcases after_cases guard (reached guard requests) request with
          ⟨between, options, _, ⟨none, _⟩ | ⟨transaction, _, accepted, left⟩, _⟩
        · rw [none] at last
          nomatch last
        · rw [accepted, Option.mem_toList] at last
          cases last
          exact left

theorem allowOverdraft_eq_false {requests : List Request}
    (guarded : ∀ request ∈ requests, request.allowsOverdraft = false) :
    ∀ posting ∈ postings guard requests, posting.options.allowOverdraft = false := by
  induction requests using List.reverseRecOn with
  | nil => exact fun _ member => nomatch member
  | append_singleton requests request induction =>
      rcases List.forall_mem_append.mp guarded with ⟨before, last⟩
      rw [postings_concat]
      refine List.forall_mem_append.mpr ⟨induction before, fun posting member => ?_⟩
      rcases after_cases guard (reached guard requests) request with
        ⟨between, options, _, ⟨none, _⟩ | ⟨transaction, _, accepted, _⟩, leave⟩
      · rw [none] at member
        nomatch member
      · rw [accepted, Option.mem_toList] at member
        cases member
        have forbidden := List.forall_mem_singleton.mp last
        rw [forbidden] at leave
        simpa using leave

end

/-! ## Requests on sample accounts -/

def sampleGuard : OverdraftGuard := ⟨"219871289"⟩

def sampleAccount (number : Nat) (routingNumber : String) : Account where
  id := ⟨.ofNat number⟩
  customerId := ⟨.ofNat 1⟩
  name := "Deposits"
  accountNumber := number.repr
  routingNumber
  status := .opened
  accountType := .checking
  createdAt := .microsecondsInto2050 0
  closedAt := none
  lastModified := none
  balance := .zero
  balanceAvailable := .zero
  balancePending := .zero

/-- So many cents, or the most there can be in an amount. -/
def sampleCents (count : Nat) : Cents :=
  ⟨(min count 0x7fffffffffffffff : Nat), by omega⟩

def sampleLine (purpose : Purpose) (amount : Cents) (number : Nat) : TransactionLine where
  purpose
  amount
  accountId := ⟨.ofNat number⟩

def addSample (number : Nat) (routingNumber : String) : Request :=
  .addAccount ⟨.ofNat 1⟩ (sampleAccount number routingNumber)

def postSample (number : Nat) (options : PostingOptions) (lines : List TransactionLine) :
    Request :=
  .post ⟨⟨.ofNat number⟩, .microsecondsInto2050 1, lines⟩ options (.microsecondsInto2050 2)

end DepositLedger.Memory
