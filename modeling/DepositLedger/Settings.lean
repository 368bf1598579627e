import DepositLedger.Fault
import DepositLedger.Json.Record
import DepositLedger.Text.Blank

/-! The settings of a ledger service: where its database is, how many connections
it holds, and which routing number is its own. -/

namespace DepositLedger

structure DatabaseSettings where
  url : String
  maxConnections : UInt32
  minConnections : UInt32
deriving DecidableEq

structure Settings where
  database : DatabaseSettings
  /-- The accounts with this routing number are guarded against overdrafts. -/
  routingNumber : String
deriving DecidableEq

/-- Why there are no settings. -/
inductive SettingsFault where
  /-- A source cannot be read, or a setting is missing or not of its kind. -/
  | unreadable
  | blankRoutingNumber
  | crossedBounds (least most : UInt32)
deriving DecidableEq

/-- What is to be said of settings that can be read and still do not do. -/
def SettingsFault.explanation? : SettingsFault → Option String
  | unreadable => none
  | blankRoutingNumber => some "ledger.default_routing_number must not be empty"
  | crossedBounds least most =>
    some <|
      s!"database.min_connections ({least.toNat}) exceeds " ++
        s!"database.max_connections ({most.toNat})"

def SettingsFault.toServiceFault (fault : SettingsFault) : ServiceFault :=
  .config (fault.explanation?.getD "settings cannot be read")

namespace Settings

def defaultMaxConnections : UInt32 := 10

def defaultMinConnections : UInt32 := 1

/-- Settings need a routing number that is not blank, and bounds in order. -/
def check (settings : Settings) : Except SettingsFault Unit :=
  if Text.isBlankText settings.routingNumber then .error .blankRoutingNumber
  else if settings.database.maxConnections < settings.database.minConnections then
    .error (.crossedBounds settings.database.minConnections settings.database.maxConnections)
  else .ok ()

end Settings

def DatabaseSettings.toJson (settings : DatabaseSettings) : Json :=
  .object
    [("max_connections", .integer settings.maxConnections.toNat),
      ("min_connections", .integer settings.minConnections.toNat),
      ("url", .text settings.url)]

def DatabaseSettings.ofJson : Decoder DatabaseSettings := fun json => do
  let record ← Record.read ["url", "max_connections", "min_connections"] json
  let connections : Decoder UInt32 := fun json =>
    (Decode.natural UInt32.size json).map UInt32.ofNat
  let url ← record.get "url" Decode.text
  let maxConnections ←
    record.getOr "max_connections" Settings.defaultMaxConnections connections
  let minConnections ←
    record.getOr "min_connections" Settings.defaultMinConnections connections
  return { url, maxConnections, minConnections }

namespace Settings

def toJson (settings : Settings) : Json :=
  .object
    [("database", settings.database.toJson),
      ("ledger", .object [("default_routing_number", .text settings.routingNumber)])]

def ofJson : Decoder Settings := fun json => do
  let record ← Record.read ["database", "ledger"] json
  let database ← record.get "database" DatabaseSettings.ofJson
  let ledger ← record.get "ledger" (Record.read ["default_routing_number"])
  let routingNumber ← ledger.get "default_routing_number" Decode.text
  return { database, routingNumber }

end Settings

end DepositLedger
