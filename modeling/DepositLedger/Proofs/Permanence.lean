import DepositLedger.Proofs.Journal
import DepositLedger.Proofs.Opening

/-! Posted transactions stay. Whatever is asked of a ledger after a transaction has been posted,
it is read back as it was posted, and its identifier is not posted again. An identifier that no
request has posted is not known. -/

namespace DepositLedger.Memory

/-- The request succeeds on the ledger with a transaction of this identifier. -/
def Request.Posts (guard : OverdraftGuard) (ledger : Ledger) (id : TransactionId) : Request → Prop
  | .addAccount _ _ => False
  | .openAccount customerId account amount stamp =>
    stamp.id = id ∧ ∃ opened,
      ((operations guard).openWithDeposit customerId account amount stamp ledger).1 = .ok opened
  | .post transaction options recordedAt =>
    transaction.id = id ∧
      ((operations guard).post transaction options recordedAt ledger).1 = .ok ()
  | .reverse original stamp =>
    stamp.id = id ∧ ∃ reversal,
      ((operations guard).reverse original stamp ledger).1 = .ok reversal

section

variable {guard : OverdraftGuard} {ledger : Ledger}

private theorem Ledger.mem_accepted?_iff {transaction : Transaction} {options : PostingOptions}
    {recordedAt : Timestamp} {posting : AcceptedPosting} :
    posting ∈ ledger.accepted? guard transaction options recordedAt ↔
      ledger.verdict guard transaction options = .ok () ∧
        posting = ⟨ledger, transaction, options⟩ := by
  rw [accepted?, post_apply]
  rcases ledger.verdict guard transaction options with fault | ⟨⟨⟩⟩
  · simp
  · simp [eq_comm]

/-- The requests that post are those that have a posting accepted. -/
private theorem Ledger.Sound.posts_iff (sound : ledger.Sound) {request : Request}
    {id : TransactionId} :
    request.Posts guard ledger id ↔
      ∃ posting ∈ ledger.acceptedBy? guard request, posting.transaction.id = id := by
  cases request with
  | addAccount customerId account => simp [Request.Posts, acceptedBy?]
  | openAccount customerId account amount stamp =>
      rw [Request.Posts, sound.openWithDeposit_apply, acceptedBy?]
      cases ledger.addAccount customerId account with
      | error fault => simp
      | ok added =>
          simp only [mem_accepted?_iff]
          rcases added.verdict guard (Operations.openingDeposit account amount stamp)
            { initialDeposit := true } with fault | ⟨⟨⟩⟩
          · simp
          · simp [Operations.openingDeposit]
  | post transaction options recordedAt =>
      rw [Request.Posts, post_apply, acceptedBy?]
      simp only [mem_accepted?_iff]
      constructor
      · intro posts
        exact ⟨_, ⟨posts.2, rfl⟩, posts.1⟩
      · intro accepted
        rcases accepted with ⟨posting, ⟨passed, rfl⟩, named⟩
        exact ⟨named, passed⟩
  | reverse original stamp =>
      rw [Request.Posts, reverse_apply, acceptedBy?]
      cases ledger.transaction? original with
      | none => simp
      | some posted =>
          simp only [mem_accepted?_iff]
          rcases ledger.verdict guard (posted.reversal stamp.id stamp.timestamp) {} with
            fault | ⟨⟨⟩⟩
          · simp
          · simp [Transaction.reversal]

/-- Each posting was accepted for one request of the run, on the ledger before it. -/
private theorem mem_postings_iff {requests : List Request} {posting : AcceptedPosting} :
    posting ∈ postings guard requests ↔
      ∃ earlier request later, requests = earlier ++ request :: later ∧
        posting ∈ (reached guard earlier).acceptedBy? guard request := by
  constructor
  · intro member
    induction requests using List.reverseRecOn with
    | nil => nomatch member
    | append_singleton requests request induction =>
        rw [postings_concat, List.mem_append, Option.mem_toList] at member
        rcases member with before | last
        · rcases induction before with ⟨earlier, other, later, rfl, accepted⟩
          exact ⟨earlier, other, later ++ [request], by simp, accepted⟩
        · exact ⟨requests, request, [], rfl, last⟩
  · intro accepted
    rcases accepted with ⟨earlier, request, later, rfl, accepted⟩
    rw [postings, postingsFrom_append, postingsFrom]
    exact List.mem_append_right _ (List.mem_append_left _ (Option.mem_toList.mpr accepted))

/-- A transaction is read back as it was posted. -/
theorem transaction?_reached_eq_some_iff {requests : List Request} {id : TransactionId}
    {transaction : Transaction} :
    (reached guard requests).transaction? id = some transaction ↔
      ∃ posting ∈ postings guard requests, posting.transaction = transaction ∧
        transaction.id = id := by
  have built := built_reached guard requests
  rw [built.holds.transaction?_eq_some_iff built.sound, List.mem_map]
  constructor
  · intro posted
    rcases posted with ⟨⟨posting, member, same⟩, named⟩
    exact ⟨posting, member, same, named⟩
  · intro posted
    rcases posted with ⟨posting, member, same, named⟩
    exact ⟨⟨posting, member, same⟩, named⟩

private theorem transaction?_reached_eq_none_iff {requests : List Request} {id : TransactionId} :
    (reached guard requests).transaction? id = none ↔
      ∀ earlier request later, requests = earlier ++ request :: later →
        ¬ request.Posts guard (reached guard earlier) id := by
  rw [Option.eq_none_iff_forall_ne_some]
  constructor
  · intro unknown earlier request later part posts
    rcases (built_reached guard earlier).sound.posts_iff.mp posts with ⟨posting, accepted, named⟩
    have member := mem_postings_iff.mpr ⟨earlier, request, later, part, accepted⟩
    exact unknown posting.transaction
      (transaction?_reached_eq_some_iff.mpr ⟨posting, member, rfl, named⟩)
  · intro unposted transaction found
    rcases transaction?_reached_eq_some_iff.mp found with ⟨posting, member, rfl, named⟩
    rcases mem_postings_iff.mp member with ⟨earlier, request, later, part, accepted⟩
    exact unposted earlier request later part
      ((built_reached guard earlier).sound.posts_iff.mpr ⟨posting, accepted, named⟩)

/-- An identifier that is known is refused. -/
private theorem Ledger.Sound.verdict_of_known (sound : ledger.Sound)
    {known transaction : Transaction}
    (found : ledger.transaction? transaction.id = some known) (options : PostingOptions) :
    ∃ fault, ledger.verdict guard transaction options = .error fault := by
  rcases passed : ledger.verdict guard transaction options with fault | ⟨⟨⟩⟩
  · exact ⟨fault, rfl⟩
  · have accepted := sound.verdict_ok_iff_accepts.mp passed
    rcases Option.map_eq_some_iff.mp found with ⟨header, headerFound, _⟩
    have named : header.transactionId = transaction.id := by simpa using List.find?_some headerFound
    exact (accepted.fresh header (List.mem_of_find?_eq_some headerFound) named).elim

end

/-- After a transaction has been posted it is read back unchanged at any later time, and
posting anything under its identifier fails. What is not known under an identifier is what no
request has posted under it. -/
theorem posted_permanently (guard : OverdraftGuard) :
    (∀ earlier transaction options recordedAt later,
      ((operations guard).post transaction options recordedAt (reached guard earlier)).1 = .ok () →
        let ledger := reached guard (earlier ++ .post transaction options recordedAt :: later)
        ((operations guard).transaction? transaction.id ledger).1 = .ok (some transaction) ∧
        ∀ other otherOptions otherRecordedAt, other.id = transaction.id →
          ∃ fault, ((operations guard).post other otherOptions otherRecordedAt ledger).1 =
            .error fault) ∧
    ∀ requests id,
      ((operations guard).transaction? id (reached guard requests)).1 = .ok none ↔
        ∀ earlier request later, requests = earlier ++ request :: later →
          ¬ request.Posts guard (reached guard earlier) id := by
  refine ⟨?_, ?_⟩
  · intro earlier transaction options recordedAt later succeeded ledger
    rw [Ledger.post_apply] at succeeded
    have accepted : (⟨reached guard earlier, transaction, options⟩ : AcceptedPosting) ∈
        (reached guard earlier).acceptedBy? guard (.post transaction options recordedAt) :=
      Ledger.mem_accepted?_iff.mpr ⟨succeeded, rfl⟩
    have member := mem_postings_iff.mpr ⟨earlier, _, later, rfl, accepted⟩
    have found : ledger.transaction? transaction.id = some transaction :=
      transaction?_reached_eq_some_iff.mpr ⟨_, member, rfl, rfl⟩
    refine ⟨congrArg Except.ok found, ?_⟩
    intro other otherOptions otherRecordedAt same
    rw [Ledger.post_apply]
    rw [← same] at found
    exact (sound_reached guard _).verdict_of_known found otherOptions
  · intro requests id
    rw [← transaction?_reached_eq_none_iff]
    exact ⟨fun read => Except.ok.inj read, congrArg Except.ok⟩

end DepositLedger.Memory
