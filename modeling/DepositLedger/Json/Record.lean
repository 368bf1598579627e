import DepositLedger.Json
import DepositLedger.Validation

/-! Reading values of the domain from JSON. A record is read from an object, whose
other members do not matter, or from a list of its fields in the order they are
declared in. -/

namespace DepositLedger

inductive DecodeFault where
  /-- It has not the shape that is asked for. -/
  | malformed
  /-- It is a text where a name is asked for, and the name is not known. -/
  | unknownName (fault : ValidationFault)
deriving DecidableEq

abbrev Decoder (α : Type) := Json → Except DecodeFault α

structure Record where
  field? : String → Option Json

namespace Record

/-- The record that is written as `json`, whose fields are declared as `names`. -/
def read (names : List String) : Decoder Record
  | .object members => .ok ⟨fun name => members.lookup name⟩
  | .list items =>
    if items.length ≤ names.length then .ok ⟨fun name => (names.zip items).lookup name⟩
    else .error .malformed
  | _ => .error .malformed

/-- Reads a field. A missing one is read as null. -/
def get {α : Type} (record : Record) (name : String) (read : Decoder α) : Except DecodeFault α :=
  read ((record.field? name).getD .null)

/-- Reads a field that may be missing. -/
def getOr {α : Type} (record : Record) (name : String) (otherwise : α) (read : Decoder α) :
    Except DecodeFault α :=
  match record.field? name with
  | none => .ok otherwise
  | some json => read json

end Record

namespace Decode

def text : Decoder String
  | .text value => .ok value
  | _ => .error .malformed

def flag : Decoder Bool
  | .flag value => .ok value
  | _ => .error .malformed

def integer : Decoder Int
  | .integer value => .ok value
  | _ => .error .malformed

/-- A number from zero up to and without `limit`. -/
def natural (limit : Nat) : Decoder Nat
  | .integer (.ofNat value) => if value < limit then .ok value else .error .malformed
  | _ => .error .malformed

/-- A value that null stands for the absence of. -/
def optional {α : Type} (read : Decoder α) : Decoder (Option α)
  | .null => .ok none
  | json => (read json).map some

def list {α : Type} (read : Decoder α) : Decoder (List α)
  | .list items => items.mapM read
  | _ => .error .malformed

/-- The members of an object whose keys may be any. -/
def entries {α : Type} (read : Decoder α) : Decoder (List (String × α))
  | .object members => members.mapM fun (key, value) => (read value).map fun entry => (key, entry)
  | _ => .error .malformed

def parsed {α : Type} (read : String → Option α) : Decoder α
  | .text value =>
    match read value with
    | some answer => .ok answer
    | none => .error .malformed
  | _ => .error .malformed

def named {α : Type} (read : String → Except ValidationFault α) : Decoder α
  | .text name => (read name).mapError .unknownName
  | _ => .error .malformed

end Decode

end DepositLedger
