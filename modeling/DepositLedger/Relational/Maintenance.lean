import DepositLedger.Relational.Database

/-! What is done to the rows of the tables by hand: marking them as deleted, and
writing over the names they hold. Each answers with the number of rows it met. -/

namespace DepositLedger.Relational

/-- Changes the rows that meet a condition, and counts them. -/
def updateRows {α : Type} (meets : α → Bool) (change : α → α) (rows : List α) : List α × Nat :=
  (rows.map fun row => if meets row then change row else row, rows.countP meets)

/-- The row or rows to mark as deleted. -/
inductive Deletion where
  | account (id : AccountId)
  | transaction (id : TransactionId)
  | line (transactionId : TransactionId) (accountId : AccountId)
deriving DecidableEq

/-- The column to write over, and whose. -/
inductive Overwriting where
  | accountStatus (id : AccountId)
  | accountType (id : AccountId)
  /-- The purposes of all lines of a transaction. -/
  | purposes (id : TransactionId)
deriving DecidableEq

def Deletion.table : Deletion → String
  | account _ => "accounts"
  | transaction _ => "transactions"
  | line _ _ => "transaction_lines"

def Overwriting.table : Overwriting → String
  | accountStatus _ | accountType _ => "accounts"
  | purposes _ => "transaction_lines"

namespace Tables

variable (tables : Tables)

def updateAccounts (id : AccountId) (change : AccountRow → AccountRow) : Tables × Nat :=
  let (rows, count) := updateRows (fun row => row.id == id) change tables.accounts
  ({ tables with accounts := rows }, count)

def updateLines (meets : LineRow → Bool) (change : LineRow → LineRow) : Tables × Nat :=
  let (rows, count) := updateRows meets change tables.lines
  ({ tables with lines := rows }, count)

/-- Marks rows as deleted. One that is marked already counts as met. -/
def delete : Deletion → Tables × Nat
  | .account id => tables.updateAccounts id fun row => { row with deleted := true }
  | .transaction id =>
    let (rows, count) :=
      updateRows (fun row => row.id == id) (fun row => { row with deleted := true })
        tables.transactions
    ({ tables with transactions := rows }, count)
  | .line transactionId accountId =>
    tables.updateLines
      (fun row => row.transactionId == transactionId && row.accountId == accountId)
      fun row => { row with deleted := true }

/-- Writes a text over a column as it is, whether or not it can be read again. -/
def overwrite (target : Overwriting) (text : String) : Tables × Nat :=
  match target with
  | .accountStatus id => tables.updateAccounts id fun row => { row with status := text }
  | .accountType id => tables.updateAccounts id fun row => { row with accountType := text }
  | .purposes id =>
    tables.updateLines (fun row => row.transactionId == id) fun row => { row with purpose := text }

end Tables

/-- A change to the rows of `table`, answered with the number of rows met. -/
def changeRows (table : String) (change : Tables → Tables × Nat) : Action Database StoreFault Nat :=
  fun database =>
    match database.opened .execution table with
    | .error fault => (.error fault, database)
    | .ok tables =>
      let (changed, count) := change tables
      (.ok count, { database with tables := some changed })

def delete (deletion : Deletion) : Action Database StoreFault Nat :=
  changeRows deletion.table fun tables => tables.delete deletion

def overwrite (target : Overwriting) (text : String) : Action Database StoreFault Nat :=
  changeRows target.table fun tables => tables.overwrite target text

end DepositLedger.Relational
