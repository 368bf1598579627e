import DepositLedger.Relational.Repository
import DepositLedger.Relational.Tables
import DepositLedger.Session

/-! A database that holds the tables, or holds none, behind a connection that may
be closed. One unit of work is open at a time; it works on the tables as they were
when it began, and committing it puts its tables in their place. -/

namespace DepositLedger.Relational

structure Database where
  /-- Nothing where the tables have been dropped. -/
  tables : Option Tables := some {}
  closed : Bool := false
deriving DecidableEq

/-- A unit of work on the tables with its own rows among them. -/
abbrev Work := UnitOfWork (Option Tables)

/-- The way a table is asked for, which the report of a missing one names. -/
inductive Request where
  | query
  | execution
deriving DecidableEq

def connectionClosed : StoreFault :=
  .database "Failed to acquire connection from pool: Connection closed"

def missingTable (request : Request) (table : String) : StoreFault :=
  let kind :=
    match request with
    | .query => "Query Error"
    | .execution => "Execution Error"
  .database s!"{kind}: error returned from database: (code: 1) no such table: {table}"

/-- The tables, for a request that names `table` first. -/
def present (tables : Option Tables) (request : Request) (table : String) :
    Except StoreFault Tables :=
  match tables with
  | some tables => .ok tables
  | none => .error (missingTable request table)

namespace Database

variable (database : Database)

def connect : Except StoreFault Unit :=
  if database.closed then .error connectionClosed else .ok ()

/-- The tables as they are read from outside a unit of work. -/
def opened (request : Request) (table : String) : Except StoreFault Tables :=
  match database.connect with
  | .error fault => .error fault
  | .ok () => present database.tables request table

/-- Answers a query that names `table` first. -/
def listed {α : Type} (table : String) (list : Tables → α) (tables : Option Tables) :
    Except StoreFault α :=
  (present tables .query table).map list

/-- Inserts into tables that are there, starting with `table`. -/
def inserted (table : String) (insert : Tables → Except StoreFault Tables) :
    Action (Option Tables) StoreFault Unit :=
  Action.alter fun tables => do
    let tables ← present tables .execution table
    return some (← insert tables)

def engine : Engine Database (Option Tables) where
  ping := connect
  close := Action.alter fun database => .ok { database with closed := true }
  begin := Action.inspect fun database => database.connect.map fun () => database.tables
  commit tables := Action.alter fun database => .ok { database with tables }
  rollback _ := pure ()
  insertAccount row := Action.alter fun database => do
    let tables ← database.opened .execution "accounts"
    return { database with tables := some (← tables.insertAccount row) }
  findAccount accountNumber routingNumber database :=
    (database.opened .query "accounts").map fun tables =>
      tables.accounts.find? fun row =>
        !row.deleted && row.accountNumber == accountNumber && row.routingNumber == routingNumber
  insertTransaction row := inserted "transactions" fun tables => tables.insertTransaction row
  insertLine row := inserted "transaction_lines" fun tables => tables.insertLine row
  accounts query := listed "accounts" fun tables => tables.accountsMeeting query
  transactions ids := listed "transactions" fun tables => tables.transactionsWithIds ids
  lines ids := listed "transaction_lines" fun tables => tables.linesOfTransactions ids
  linesOn accountId := listed "transaction_lines" fun tables => tables.linesOnAccount accountId
  transactionsOn accountId := listed "transaction_lines" fun tables =>
    ((tables.linesOnAccount accountId).map (·.transactionId)).eraseDups

def dropTables : Except StoreFault Database :=
  match database.connect with
  | .error fault => .error fault
  | .ok () => .ok { database with tables := none }

/-- Creates the tables that are missing. -/
def createTables : Except StoreFault Database :=
  match database.connect with
  | .error fault => .error fault
  | .ok () => .ok { database with tables := some (database.tables.getD {}) }

end Database

def backend : Backend Database Work where
  store := Database.engine.store
  operations := Database.engine.operations
  exclusive := true

end DepositLedger.Relational
