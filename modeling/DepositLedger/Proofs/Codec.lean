import DepositLedger.Json.Codec
import DepositLedger.Proofs.Names
import DepositLedger.Proofs.WrittenTimes

/-! Values of the domain are read back from the JSON they are written as. Names may be read in
letters of either case, and no name is read but those that are written. -/

namespace DepositLedger

/-- Every value is read back from what is written for it. -/
def Restores {α : Type} (write : α → Json) (read : Decoder α) : Prop :=
  ∀ value, read (write value) = .ok value

section

variable {α : Type} {write : α → Json} {read : Decoder α}

theorem Restores.list (restores : Restores write read) :
    Restores (fun values => .list (values.map write)) (Decode.list read) := by
  intro values
  change (values.map write).mapM read = .ok values
  induction values with
  | nil => rfl
  | cons value rest induction =>
      rw [List.map_cons, List.mapM_cons, restores value, induction]
      rfl

/-- A value that may be absent, if nothing is written as its absence is. -/
theorem Restores.optional (restores : Restores write read)
    (present : ∀ value, write value ≠ .null) :
    Restores (Json.ofOption write) (Decode.optional read) := by
  intro value
  cases value with
  | none => rfl
  | some value =>
      rw [Json.ofOption, Decode.optional, restores value]
      · rfl
      · exact present value

end

/-! ## Values that are no records -/

theorem Cents.restores : Restores toJson ofJson := by
  intro cents
  simp only [toJson, ofJson, ofInt?_value]

theorem EntityId.restores {kind : EntityKind} : Restores (@toJson kind) ofJson := by
  intro id
  simp only [toJson, ofJson, Decode.parsed, ofText?_toText]

theorem Timestamp.restores : Restores toJson ofJson := by
  intro timestamp
  simp only [toJson, ofJson, Decode.parsed, ofText?_toText]

private theorem Decode.named_ok_iff {α : Type} {read : String → Except ValidationFault α}
    {json : Json} {value : α} :
    named read json = .ok value ↔ ∃ text, json = .text text ∧ read text = .ok value := by
  cases json with
  | text name =>
      cases outcome : read name with
      | ok found => simp [named, Except.mapError, outcome]
      | error fault => simp [named, Except.mapError, outcome]
  | _ => simp [named]

private theorem Purpose.ofJson_ok_iff {json : Json} {purpose : Purpose} :
    ofJson json = .ok purpose ↔
      ∃ text, json = .text text ∧ purpose.toJson = .text (Text.lowerCase text) := by
  simp only [ofJson, toJson, tag_eq_name, Decode.named_ok_iff, read_ok_iff, Json.text.injEq]

private theorem AccountType.ofJson_ok_iff {json : Json} {accountType : AccountType} :
    ofJson json = .ok accountType ↔
      ∃ text, json = .text text ∧ accountType.toJson = .text (Text.lowerCase text) := by
  simp only [ofJson, toJson, tag_eq_name, Decode.named_ok_iff, read_ok_iff, Json.text.injEq]

private theorem AccountStatus.ofJson_ok_iff {json : Json} {status : AccountStatus} :
    ofJson json = .ok status ↔
      ∃ text, json = .text text ∧ status.toJson = .text (Text.lowerCase text) := by
  simp only [ofJson, toJson, tag_eq_name, Decode.named_ok_iff, read_ok_iff, Json.text.injEq]

/-- A value is read back by its name in storage, which is what is written for it in JSON. -/
theorem Purpose.restores : Restores toJson ofJson := fun purpose =>
  Decode.named_ok_iff.mpr ⟨purpose.tag, rfl, purpose.tag_eq_name ▸ purpose.read_name⟩

theorem AccountType.restores : Restores toJson ofJson := fun accountType =>
  Decode.named_ok_iff.mpr ⟨accountType.tag, rfl, accountType.tag_eq_name ▸ accountType.read_name⟩

theorem AccountStatus.restores : Restores toJson ofJson := fun status =>
  Decode.named_ok_iff.mpr ⟨status.tag, rfl, status.tag_eq_name ▸ status.read_name⟩

/-! ## Records -/

@[simp] theorem Record.read_object (names : List String) (members : List (String × Json)) :
    read names (.object members) = .ok ⟨fun name => members.lookup name⟩ := rfl

@[simp] theorem Record.get_mk {α : Type} (field? : String → Option Json) (name : String)
    (read : Decoder α) : (mk field?).get name read = read ((field? name).getD .null) := rfl

theorem TransactionLine.restores : Restores toJson ofJson := by
  intro line
  have accountId := EntityId.restores line.accountId
  have purpose := Purpose.restores line.purpose
  have amount := Cents.restores line.amount
  simp [toJson, ofJson, List.lookup_cons, bind, Except.bind, pure, Except.pure,
    accountId, purpose, amount]

theorem Transaction.restores : Restores toJson ofJson := by
  intro transaction
  have id := EntityId.restores transaction.id
  have timestamp := Timestamp.restores transaction.timestamp
  have lines := TransactionLine.restores.list transaction.lines
  simp [toJson, ofJson, List.lookup_cons, bind, Except.bind, pure, Except.pure,
    id, timestamp, lines]

theorem Timestamp.restores_optional :
    Restores (Json.ofOption toJson) (Decode.optional ofJson) :=
  restores.optional fun _ => nofun

theorem Account.restores : Restores toJson ofJson := by
  intro account
  have id := EntityId.restores account.id
  have customerId := EntityId.restores account.customerId
  have status := AccountStatus.restores account.status
  have accountType := AccountType.restores account.accountType
  have createdAt := Timestamp.restores account.createdAt
  have closedAt := Timestamp.restores_optional account.closedAt
  have lastModified := Timestamp.restores_optional account.lastModified
  have balance := Cents.restores account.balance
  have available := Cents.restores account.balanceAvailable
  have pending := Cents.restores account.balancePending
  simp [toJson, ofJson, List.lookup_cons, bind, Except.bind, pure, Except.pure,
    Decode.text, id, customerId, status, accountType, createdAt, closedAt, lastModified, balance,
    available, pending]

theorem AccountBalance.restores : Restores toJson ofJson := by
  intro shown
  have balance := Cents.restores shown.balance
  have available := Cents.restores shown.available
  have pending := Cents.restores shown.pending
  simp [toJson, ofJson, List.lookup_cons, bind, Except.bind, pure, Except.pure,
    balance, available, pending]

theorem OpenRequest.restores : Restores toJson ofJson := by
  intro request
  have balance := Cents.restores request.initialBalance
  simp [toJson, ofJson, List.lookup_cons, bind, Except.bind, pure, Except.pure,
    Decode.text, balance]

/-- Every transaction, account, balance and request is read back from its JSON. A name is read
exactly from texts that are, with the letters A to Z made small, what is written for it; nothing
else is read as one. -/
theorem decoding_restores :
    Restores Transaction.toJson Transaction.ofJson ∧
    Restores Account.toJson Account.ofJson ∧
    Restores AccountBalance.toJson AccountBalance.ofJson ∧
    Restores OpenRequest.toJson OpenRequest.ofJson ∧
    (∀ json purpose, Purpose.ofJson json = .ok purpose ↔
      ∃ text, json = .text text ∧ purpose.toJson = .text (Text.lowerCase text)) ∧
    (∀ json accountType, AccountType.ofJson json = .ok accountType ↔
      ∃ text, json = .text text ∧ accountType.toJson = .text (Text.lowerCase text)) ∧
    (∀ json status, AccountStatus.ofJson json = .ok status ↔
      ∃ text, json = .text text ∧ status.toJson = .text (Text.lowerCase text)) := by
  refine ⟨Transaction.restores, Account.restores, AccountBalance.restores, OpenRequest.restores,
    ?_, ?_, ?_⟩
  · exact fun _ _ => Purpose.ofJson_ok_iff
  · exact fun _ _ => AccountType.ofJson_ok_iff
  · exact fun _ _ => AccountStatus.ofJson_ok_iff

/-- The sign of the kelvin has a small k, but is none of the letters A to Z. -/
example : AccountType.ofJson (.text "chec\u212aing") =
    .error (.unknownName (.unknownAccountType "chec\u212aing")) := by cbv

end DepositLedger
