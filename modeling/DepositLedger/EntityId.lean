import DepositLedger.Uuid.Text

/-! Identifiers of accounts, customers and transactions. Each kind has a type of
its own, so that one cannot be passed where another is asked for. The nil
identifier stands for an empty one. -/

namespace DepositLedger

inductive EntityKind where
  | account
  | customer
  | transaction

structure EntityId (kind : EntityKind) where
  uuid : Uuid
deriving DecidableEq

abbrev AccountId := EntityId .account

abbrev CustomerId := EntityId .customer

abbrev TransactionId := EntityId .transaction

namespace EntityId

variable {kind : EntityKind}

def nil : EntityId kind := ⟨.nil⟩

def isNil (id : EntityId kind) : Bool := id == nil

def ofText? (text : String) : Option (EntityId kind) :=
  (Uuid.ofText? text).map EntityId.mk

def toText (id : EntityId kind) : String := id.uuid.toText

/-- Puts identifiers in ascending order and keeps repeated ones. -/
def sort (ids : List (EntityId kind)) : List (EntityId kind) :=
  ids.mergeSort fun first second => first.uuid ≤ second.uuid

theorem isNil_iff {id : EntityId kind} : id.isNil = true ↔ id = nil := by
  simp [isNil]

theorem ofText?_toText (id : EntityId kind) : ofText? id.toText = some id := by
  simp [ofText?, toText, Uuid.ofText?_toText]

end EntityId

end DepositLedger
