import DepositLedger.Memory.Operations
import Mathlib.Data.List.Nodup

/-! The rows of a ledger in memory: accounts, headers by their identifiers, lines by
transaction and account, and the movements that lines make on one account. -/

namespace DepositLedger.Memory

/-- What tells one line from all others. -/
def PostedLine.key (posted : PostedLine) : TransactionId × AccountId :=
  (posted.transactionId, posted.line.accountId)

section

variable {α κ : Type} {key : α → κ} {rows added : List α}

theorem nodup_keys_append (distinct : (rows.map key).Nodup) (addedDistinct : (added.map key).Nodup)
    (fresh : ∀ row ∈ rows, ∀ new ∈ added, key row ≠ key new) :
    ((rows ++ added).map key).Nodup := by
  rw [List.map_append]
  refine List.nodup_append.mpr ⟨distinct, addedDistinct, ?_⟩
  intro rowKey member newKey newMember
  rcases List.mem_map.mp member with ⟨row, rowMember, rfl⟩
  rcases List.mem_map.mp newMember with ⟨new, addedMember, rfl⟩
  exact fresh row rowMember new addedMember

theorem nodup_keys_concat (distinct : (rows.map key).Nodup) {new : α}
    (fresh : ∀ row ∈ rows, key row ≠ key new) : ((rows ++ [new]).map key).Nodup :=
  nodup_keys_append distinct (List.nodup_singleton _) fun row member other otherMember => by
    rw [List.mem_singleton.mp otherMember]
    exact fresh row member

/-- Where keys are distinct, the row that is found under a key is the one that has it. -/
theorem find?_key_eq_some_iff [DecidableEq κ] (distinct : (rows.map key).Nodup) {wanted : κ}
    {row : α} :
    rows.find? (fun other => key other == wanted) = some row ↔
      row ∈ rows ∧ key row = wanted := by
  constructor
  · intro found
    exact ⟨List.mem_of_find?_eq_some found, by simpa using List.find?_some found⟩
  · intro holds
    rcases holds with ⟨member, rfl⟩
    cases found : rows.find? fun other => key other == key row with
    | none =>
        have passedOver := List.find?_eq_none.mp found row member
        simp at passedOver
    | some other =>
        have same : key other = key row := by simpa using List.find?_some found
        rw [List.inj_on_of_nodup_map distinct (List.mem_of_find?_eq_some found) member same]

private theorem length_filter_le_one (distinct : (rows.map key).Nodup) {meets : α → Bool}
    {wanted : κ} (named : ∀ row, meets row = true → key row = wanted) :
    (rows.filter meets).length ≤ 1 := by
  have same : (rows.filter meets).map key = List.replicate (rows.filter meets).length wanted := by
    rw [List.eq_replicate_iff, List.length_map]
    refine ⟨rfl, fun other member => ?_⟩
    rcases List.mem_map.mp member with ⟨row, rowMember, rfl⟩
    exact named row (List.mem_filter.mp rowMember).2
  have kept : ((rows.filter meets).map key).Nodup :=
    distinct.sublist (List.filter_sublist.map key)
  rw [same] at kept
  exact List.nodup_replicate.mp kept

/-- Where keys are distinct, at most one row has a given key. -/
theorem filter_eq_nil_or_singleton (distinct : (rows.map key).Nodup) {meets : α → Bool}
    {wanted : κ} (named : ∀ row, meets row = true → key row = wanted) :
    rows.filter meets = [] ∨ ∃ row, rows.filter meets = [row] := by
  have few := length_filter_le_one distinct named
  cases listed : rows.filter meets with
  | nil => exact .inl rfl
  | cons row rest =>
      rw [listed] at few
      have none : rest = [] := by simpa using few
      exact .inr ⟨row, congrArg (List.cons row) none⟩

/-- Where keys are distinct, a row that has its key to itself is the only one that is kept. -/
theorem filter_eq_singleton (distinct : (rows.map key).Nodup) {meets : α → Bool} {row : α}
    (member : row ∈ rows) (met : meets row = true)
    (named : ∀ other, meets other = true → key other = key row) : rows.filter meets = [row] := by
  have kept : row ∈ rows.filter meets := List.mem_filter.mpr ⟨member, met⟩
  rcases filter_eq_nil_or_singleton distinct named with none | ⟨only, single⟩
  · rw [none] at kept
    nomatch kept
  · rw [single] at kept ⊢
    rw [List.mem_singleton.mp kept]

/-- Of two parts without a common key at most one has rows under a given key, and it makes no
difference to these which part comes first. -/
theorem filter_key_append_comm [DecidableEq κ] (key : α → κ) (wanted : κ) (rows : List α)
    {first second : List α}
    (apart : ∀ row ∈ first, ∀ other ∈ second, key row ≠ key other) :
    (rows ++ first ++ second).filter (fun row => key row == wanted) =
      (rows ++ second ++ first).filter fun row => key row == wanted := by
  by_cases used : ∃ row ∈ first, key row = wanted
  · rcases used with ⟨row, member, rfl⟩
    have none : second.filter (fun other => key other == key row) = [] := by
      rw [List.filter_eq_nil_iff]
      intro other otherMember
      simpa using (apart row member other otherMember).symm
    simp [none]
  · have none : first.filter (fun row => key row == wanted) = [] := by
      rw [List.filter_eq_nil_iff]
      intro row member
      simpa using fun same => used ⟨row, member, same⟩
    simp [none]

/-- Of the parts of all rows, those under the key of a row are its own. -/
theorem filter_flatMap_key [DecidableEq κ] (distinct : (rows.map key).Nodup) {β : Type}
    {parts : α → List β} {partKey : β → κ} (own : ∀ row, ∀ part ∈ parts row, partKey part = key row)
    {row : α} (member : row ∈ rows) :
    (rows.flatMap parts).filter (fun part => partKey part == key row) = parts row := by
  rcases List.append_of_mem member with ⟨earlier, later, rfl⟩
  rw [List.map_append, List.map_cons, List.nodup_middle, List.nodup_cons,
    List.mem_append, not_or] at distinct
  rcases distinct with ⟨⟨notEarlier, notLater⟩, _⟩
  have none (others : List α) (absent : key row ∉ others.map key) :
      others.flatMap (fun other => (parts other).filter fun part => partKey part == key row) =
        [] := by
    rw [List.flatMap_eq_nil_iff]
    intro other otherMember
    rw [List.filter_eq_nil_iff]
    intro part partMember same
    rw [own other part partMember, beq_iff_eq] at same
    exact absent (same ▸ List.mem_map_of_mem otherMember)
  have all : (parts row).filter (fun part => partKey part == key row) = parts row := by
    rw [List.filter_eq_self]
    intro part partMember
    rw [own row part partMember, beq_self_eq_true]
  rw [List.filter_flatMap, List.flatMap_append, List.flatMap_cons, none earlier notEarlier,
    none later notLater, all, List.nil_append, List.append_nil]

end

theorem eraseDups_of_nodup {α : Type} [DecidableEq α] {rows : List α} (distinct : rows.Nodup) :
    rows.eraseDups = rows := by
  induction rows with
  | nil => rfl
  | cons row rest induction =>
      rcases List.nodup_cons.mp distinct with ⟨new, restDistinct⟩
      have all : rest.filter (fun other => !other == row) = rest := by
        rw [List.filter_eq_self]
        intro other member
        have different : other ≠ row := fun same => new (same ▸ member)
        simpa using different
      rw [List.eraseDups_cons, all, induction restDistinct]

theorem find?_eraseDups {α : Type} [DecidableEq α] (meets : α → Bool) :
    ∀ rows : List α, rows.eraseDups.find? meets = rows.find? meets
  | [] => rfl
  | row :: rest => by
      rw [List.eraseDups_cons, List.find?_cons, List.find?_cons,
        find?_eraseDups meets (rest.filter fun other => !other == row), List.find?_filter]
      cases found : meets row with
      | true => rfl
      | false =>
          apply congrArg (rest.find? ·)
          funext other
          by_cases equal : other = row
          · simp [equal, found]
          · simp [equal]
termination_by rows => rows.length
decreasing_by
  exact Nat.lt_succ_of_le (List.length_filter_le _ _)

/-- Lines as they are kept under the identifier of their transaction. -/
def keepLines (transactionId : TransactionId) (lines : List TransactionLine) : List PostedLine :=
  lines.map fun line => ⟨transactionId, line⟩

/-- The ledger with a transaction at the end of what has been committed. -/
def Ledger.posted (ledger : Ledger) (transaction : Transaction) : Ledger :=
  { ledger with
    headers := ledger.headers ++ [⟨transaction.id, transaction.timestamp⟩]
    lines := ledger.lines ++ keepLines transaction.id transaction.lines }

theorem keepLines_append (transactionId : TransactionId) (first second : List TransactionLine) :
    keepLines transactionId (first ++ second) =
      keepLines transactionId first ++ keepLines transactionId second := by
  simp [keepLines]

theorem mem_keepLines {transactionId : TransactionId} {lines : List TransactionLine}
    {posted : PostedLine} :
    posted ∈ keepLines transactionId lines ↔
      posted.transactionId = transactionId ∧ posted.line ∈ lines := by
  constructor
  · intro member
    rcases List.mem_map.mp member with ⟨line, lineMember, rfl⟩
    exact ⟨rfl, lineMember⟩
  · intro kept
    rcases kept with ⟨rfl, lineMember⟩
    exact List.mem_map.mpr ⟨posted.line, lineMember, rfl⟩

theorem hasHeader_eq_false_iff {headers : List Header} {transactionId : TransactionId} :
    hasHeader headers transactionId = false ↔
      ∀ header ∈ headers, header.transactionId ≠ transactionId := by
  simp [hasHeader]

theorem hasLine_eq_false_iff {lines : List PostedLine} {transactionId : TransactionId}
    {accountId : AccountId} :
    hasLine lines transactionId accountId = false ↔
      ∀ posted ∈ lines, posted.transactionId = transactionId →
        posted.line.accountId ≠ accountId := by
  simp [hasLine]

theorem hasHeader_iff {headers : List Header} {transactionId : TransactionId} :
    hasHeader headers transactionId = true ↔ transactionId ∈ headers.map (·.transactionId) := by
  simp [hasHeader]

theorem hasLine_iff {lines : List PostedLine} {transactionId : TransactionId}
    {accountId : AccountId} :
    hasLine lines transactionId accountId = true ↔
      (transactionId, accountId) ∈ lines.map PostedLine.key := by
  simp [hasLine, PostedLine.key]

@[simp] theorem movementsOf_append (first second : List PostedLine) (accountId : AccountId) :
    movementsOf (first ++ second) accountId =
      movementsOf first accountId ++ movementsOf second accountId := by
  simp [movementsOf]

theorem movementsOf_eq_nil {lines : List PostedLine} {accountId : AccountId}
    (absent : ∀ posted ∈ lines, posted.line.accountId ≠ accountId) :
    movementsOf lines accountId = [] := by
  simpa [movementsOf] using absent

theorem movementsOf_keepLines_eq_nil {transactionId : TransactionId}
    {lines : List TransactionLine} {accountId : AccountId}
    (absent : ∀ line ∈ lines, line.accountId ≠ accountId) :
    movementsOf (keepLines transactionId lines) accountId = [] :=
  movementsOf_eq_nil fun posted member => absent posted.line (mem_keepLines.mp member).2

/-- Of lines on accounts that are all different, one is on the account of a line. -/
theorem movementsOf_keepLines_of_mem {transactionId : TransactionId}
    {lines : List TransactionLine} {line : TransactionLine}
    (distinct : (lines.map (·.accountId)).Nodup) (member : line ∈ lines) :
    movementsOf (keepLines transactionId lines) line.accountId = [line.toMovement] := by
  rcases List.append_of_mem member with ⟨earlier, later, rfl⟩
  rw [List.map_append, List.map_cons, List.nodup_middle, List.nodup_cons,
    List.mem_append, not_or] at distinct
  rcases distinct with ⟨⟨notEarlier, notLater⟩, _⟩
  have earlierNone : movementsOf (keepLines transactionId earlier) line.accountId = [] :=
    movementsOf_keepLines_eq_nil fun other otherMember same =>
      notEarlier (same ▸ List.mem_map_of_mem otherMember)
  have laterNone : movementsOf (keepLines transactionId later) line.accountId = [] :=
    movementsOf_keepLines_eq_nil fun other otherMember same =>
      notLater (same ▸ List.mem_map_of_mem otherMember)
  have whole : earlier ++ line :: later = earlier ++ ([line] ++ later) := rfl
  rw [whole, keepLines_append, keepLines_append, movementsOf_append, movementsOf_append,
    earlierNone, laterNone]
  simp [movementsOf, keepLines]

/-- What is staged takes an identifier or a key that has been committed. -/
def Staging.Clashes (staging : Staging) (ledger : Ledger) : Prop :=
  (∃ header ∈ staging.headers,
    header.transactionId ∈ ledger.headers.map (·.transactionId)) ∨
  ∃ posted ∈ staging.lines, posted.key ∈ ledger.lines.map PostedLine.key

theorem Ledger.commit_cases (ledger : Ledger) (staging : Staging) :
    (¬ staging.Clashes ledger ∧ ledger.commit staging = .ok { ledger with
      headers := ledger.headers ++ staging.headers
      lines := ledger.lines ++ staging.lines }) ∨
    (staging.Clashes ledger ∧ ∃ fault, ledger.commit staging = .error fault) := by
  rw [commit]
  cases headerFound : staging.headers.find? fun header =>
      hasHeader ledger.headers header.transactionId with
  | some header =>
      have taken := List.find?_some headerFound
      exact Or.inr ⟨Or.inl
        ⟨header, List.mem_of_find?_eq_some headerFound, hasHeader_iff.mp taken⟩, _, rfl⟩
  | none =>
      dsimp only
      cases lineFound : staging.lines.find? fun posted =>
          hasLine ledger.lines posted.transactionId posted.line.accountId with
      | some posted =>
          have taken := List.find?_some lineFound
          exact Or.inr ⟨Or.inr
            ⟨posted, List.mem_of_find?_eq_some lineFound, hasLine_iff.mp taken⟩, _, rfl⟩
      | none =>
          refine Or.inl ⟨?_, rfl⟩
          intro clash
          rcases clash with ⟨header, member, taken⟩ | ⟨posted, member, taken⟩
          · exact List.find?_eq_none.mp headerFound header member (hasHeader_iff.mpr taken)
          · exact List.find?_eq_none.mp lineFound posted member (hasLine_iff.mpr taken)

theorem Ledger.addAccount_ok_iff {ledger added : Ledger} {customerId : CustomerId}
    {account : Account} :
    ledger.addAccount customerId account = .ok added ↔
      (∀ other ∈ ledger.accounts, (other.accountNumber, other.routingNumber) ≠
        (account.accountNumber, account.routingNumber)) ∧
      (∀ other ∈ ledger.accounts, other.id ≠ account.id) ∧
      added = { ledger with accounts := ledger.accounts ++ [account.stored customerId] } := by
  have number : (ledger.accounts.any fun other => other.accountNumber == account.accountNumber &&
      other.routingNumber == account.routingNumber) = false ↔
        ∀ other ∈ ledger.accounts, (other.accountNumber, other.routingNumber) ≠
          (account.accountNumber, account.routingNumber) := by
    simp
  have id : (ledger.accounts.any fun other => other.id == account.id) = false ↔
      ∀ other ∈ ledger.accounts, other.id ≠ account.id := by
    simp
  rw [addAccount, ← number, ← id]
  cases ledger.accounts.any fun other => other.accountNumber == account.accountNumber &&
    other.routingNumber == account.routingNumber with
  | true => simp
  | false =>
      cases ledger.accounts.any fun other => other.id == account.id with
      | true => simp
      | false => simp [eq_comm]

end DepositLedger.Memory
