import DepositLedger.Operations
import DepositLedger.Tracing

/-! A session: one ledger and the units of work that are open on it, each under a
name. Where a backend has room for one unit at a time, nothing else can be done
while it is open. -/

namespace DepositLedger

/-- A kind of ledger: its store of units of work, and what it offers beside them. -/
structure Backend (σ υ : Type) where
  store : UnitStore σ υ
  operations : OverdraftGuard → Operations σ
  /-- One unit of work is open at a time. -/
  exclusive : Bool

/-- Posts to the backend with every call to its store written down, and the planned
ones failed. -/
def Backend.postTraced {σ υ : Type} (backend : Backend σ υ) (planned : List PlannedFault)
    (guard : OverdraftGuard) (transaction : Transaction) (options : PostingOptions)
    (recordedAt : Timestamp) : Action (σ × List StoreCall) LedgerFault Unit :=
  postTransaction (backend.store.traced planned) guard
    (fun ids => ((backend.operations guard).accounts ids).lift) transaction options recordedAt

/-- Whether postings have accounts to look at. -/
inductive Attachment where
  | attached
  /-- Nothing has been attached so far. -/
  | vacant
  /-- What was attached is gone, and nothing else can take its place. -/
  | lost
deriving DecidableEq

structure Session (σ υ : Type) where
  ledger : σ
  attachment : Attachment := .attached
  units : List (String × υ) := []

inductive SessionFault where
  /-- A unit of work is open, and the step is not one of its own. -/
  | busy
  /-- No unit of work of that name is open. -/
  | noSuchUnit
  | ledger (fault : LedgerFault)
deriving DecidableEq

namespace Session

variable {σ υ α : Type}

def isBusy (backend : Backend σ υ) (session : Session σ υ) : Bool :=
  backend.exclusive && !session.units.isEmpty

def operations (backend : Backend σ υ) (guard : OverdraftGuard) (session : Session σ υ) :
    Operations σ :=
  match session.attachment with
  | .attached => backend.operations guard
  | .vacant | .lost => (backend.operations guard).unattached

/-- Attaches accounts to postings; answers whether there was room for them. -/
def attach : Action (Session σ υ) SessionFault Bool := fun session =>
  match session.attachment with
  | .vacant => (.ok true, { session with attachment := .attached })
  | .attached | .lost => (.ok false, session)

/-- A step against the ledger, which is not taken while the session is busy. -/
def onLedger (backend : Backend σ υ) (step : Action σ LedgerFault α) :
    Action (Session σ υ) SessionFault α := fun session =>
  if session.isBusy backend then (.error .busy, session)
  else
    match step session.ledger with
    | (.ok answer, ledger) => (.ok answer, { session with ledger })
    | (.error fault, ledger) => (.error (.ledger fault), { session with ledger })

/-- The open units with the one of this name closed. -/
def without (name : String) (session : Session σ υ) : Session σ υ :=
  { session with units := session.units.filter (·.1 != name) }

/-- The session with a unit open under this name, in the place of another of the name. -/
def withUnit (name : String) (unit : υ) (session : Session σ υ) : Session σ υ :=
  { session with units := (name, unit) :: (session.without name).units }

def beginUnit (backend : Backend σ υ) (name : String) : Action (Session σ υ) SessionFault Unit := do
  let opened ← onLedger backend (backend.store.begin.mapError LedgerFault.store)
  fun session => (.ok (), session.withUnit name opened)

def inUnit (name : String) (step : Action (σ × υ) LedgerFault α) :
    Action (Session σ υ) SessionFault α := fun session =>
  match session.units.lookup name with
  | none => (.error .noSuchUnit, session)
  | some unit =>
    match step (session.ledger, unit) with
    | (.ok answer, (ledger, unit)) => (.ok answer, { session with ledger }.withUnit name unit)
    | (.error fault, (ledger, unit)) =>
      (.error (.ledger fault), { session with ledger }.withUnit name unit)

/-- Ends a unit of work. Its name is free again, even if the ending fails. -/
def endUnit (name : String) (ending : υ → Action σ StoreFault Unit) :
    Action (Session σ υ) SessionFault Unit := fun session =>
  match session.units.lookup name with
  | none => (.error .noSuchUnit, session)
  | some unit =>
    match ending unit session.ledger with
    | (.ok (), ledger) => (.ok (), { session with ledger }.without name)
    | (.error fault, ledger) =>
      (.error (.ledger (.store fault)), { session with ledger }.without name)

def commitUnit (backend : Backend σ υ) (name : String) :
    Action (Session σ υ) SessionFault Unit :=
  endUnit name backend.store.commit

def rollbackUnit (backend : Backend σ υ) (name : String) :
    Action (Session σ υ) SessionFault Unit :=
  endUnit name backend.store.rollback

/-- Lets go of a unit of work that is neither committed nor rolled back. -/
def dropUnit (name : String) : Action (Session σ υ) SessionFault Unit :=
  endUnit name fun _ => pure ()

end Session

end DepositLedger
