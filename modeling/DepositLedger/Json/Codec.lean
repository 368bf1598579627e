import DepositLedger.Json.Record
import DepositLedger.Timestamp.Text

/-! Values of the domain as JSON. -/

namespace DepositLedger

def Cents.toJson (cents : Cents) : Json := .integer cents.value

def Cents.ofJson : Decoder Cents
  | .integer value =>
    match ofInt? value with
    | some cents => .ok cents
    | none => .error .malformed
  | _ => .error .malformed

def EntityId.toJson {kind : EntityKind} (id : EntityId kind) : Json := .text id.toText

def EntityId.ofJson {kind : EntityKind} : Decoder (EntityId kind) := Decode.parsed ofText?

def Timestamp.toJson (timestamp : Timestamp) : Json := .text timestamp.toText

def Timestamp.ofJson : Decoder Timestamp := Decode.parsed ofText?

def Purpose.toJson (purpose : Purpose) : Json := .text purpose.tag

def Purpose.ofJson : Decoder Purpose := Decode.named read

def AccountType.toJson (accountType : AccountType) : Json := .text accountType.tag

def AccountType.ofJson : Decoder AccountType := Decode.named read

def AccountStatus.toJson (status : AccountStatus) : Json := .text status.tag

def AccountStatus.ofJson : Decoder AccountStatus := Decode.named read

/-- A value that may be absent, which null stands for. -/
def Json.ofOption {α : Type} (write : α → Json) : Option α → Json
  | some value => write value
  | none => .null

namespace TransactionLine

def toJson (line : TransactionLine) : Json :=
  .object
    [("account_id", line.accountId.toJson),
      ("amount", line.amount.toJson),
      ("purpose", line.purpose.toJson)]

def ofJson : Decoder TransactionLine := fun json => do
  let record ← Record.read ["account_id", "purpose", "amount"] json
  let accountId ← record.get "account_id" EntityId.ofJson
  let purpose ← record.get "purpose" Purpose.ofJson
  let amount ← record.get "amount" Cents.ofJson
  return { purpose, amount, accountId }

end TransactionLine

namespace Transaction

def toJson (transaction : Transaction) : Json :=
  .object
    [("id", transaction.id.toJson),
      ("lines", .list (transaction.lines.map TransactionLine.toJson)),
      ("timestamp", transaction.timestamp.toJson)]

def ofJson : Decoder Transaction := fun json => do
  let record ← Record.read ["id", "timestamp", "lines"] json
  let id ← record.get "id" EntityId.ofJson
  let timestamp ← record.get "timestamp" Timestamp.ofJson
  let lines ← record.get "lines" (Decode.list TransactionLine.ofJson)
  return { id, timestamp, lines }

end Transaction

namespace Account

def toJson (account : Account) : Json :=
  .object
    [("account_number", .text account.accountNumber),
      ("account_type", account.accountType.toJson),
      ("balance", account.balance.toJson),
      ("balance_available", account.balanceAvailable.toJson),
      ("balance_pending", account.balancePending.toJson),
      ("closed_at", .ofOption Timestamp.toJson account.closedAt),
      ("created_at", account.createdAt.toJson),
      ("customer_id", account.customerId.toJson),
      ("id", account.id.toJson),
      ("last_modified", .ofOption Timestamp.toJson account.lastModified),
      ("name", .text account.name),
      ("routing_number", .text account.routingNumber),
      ("status", account.status.toJson)]

def ofJson : Decoder Account := fun json => do
  let record ←
    Record.read
      ["id", "customer_id", "name", "account_number", "routing_number", "status",
        "account_type", "created_at", "closed_at", "last_modified", "balance",
        "balance_available", "balance_pending"]
      json
  let id ← record.get "id" EntityId.ofJson
  let customerId ← record.get "customer_id" EntityId.ofJson
  let name ← record.get "name" Decode.text
  let accountNumber ← record.get "account_number" Decode.text
  let routingNumber ← record.get "routing_number" Decode.text
  let status ← record.get "status" AccountStatus.ofJson
  let accountType ← record.get "account_type" AccountType.ofJson
  let createdAt ← record.get "created_at" Timestamp.ofJson
  let closedAt ← record.get "closed_at" (Decode.optional Timestamp.ofJson)
  let lastModified ← record.get "last_modified" (Decode.optional Timestamp.ofJson)
  let balance ← record.get "balance" Cents.ofJson
  let balanceAvailable ← record.get "balance_available" Cents.ofJson
  let balancePending ← record.get "balance_pending" Cents.ofJson
  return {
    id, customerId, name, accountNumber, routingNumber, status, accountType, createdAt
    closedAt, lastModified, balance, balanceAvailable, balancePending }

end Account

namespace AccountBalance

def toJson (balance : AccountBalance) : Json :=
  .object
    [("available", balance.available.toJson),
      ("balance", balance.balance.toJson),
      ("pending", balance.pending.toJson)]

def ofJson : Decoder AccountBalance := fun json => do
  let record ← Record.read ["balance", "available", "pending"] json
  let balance ← record.get "balance" Cents.ofJson
  let available ← record.get "available" Cents.ofJson
  let pending ← record.get "pending" Cents.ofJson
  return { balance, available, pending }

end AccountBalance

namespace OpenRequest

def toJson (request : OpenRequest) : Json :=
  .object
    [("balance", request.initialBalance.toJson),
      ("name", .text request.name),
      ("type", .text request.accountType)]

def ofJson : Decoder OpenRequest := fun json => do
  let record ← Record.read ["name", "type", "balance"] json
  let name ← record.get "name" Decode.text
  let accountType ← record.get "type" Decode.text
  let initialBalance ← record.get "balance" Cents.ofJson
  return { name, accountType, initialBalance }

end OpenRequest

end DepositLedger
