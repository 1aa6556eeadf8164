import WarehouseAccess.Connection.Error
import WarehouseAccess.Driver.Document
/-!
# Scripted drivers and errors of connections as documents

The drivers that connections are opened with can be written down in JSON, each with its script, and
so can what each of them recorded.  An error of a connection names its kind and what it was about.
-/

namespace WarehouseAccess

/-! ### Drivers -/

/-- The scripted drivers that are installed. -/
def Drivers.ofJson (j : Json) : Drivers where
  native := (j.field? "native").map ScriptedDriver.ofJson
  odbc := (j.field? "odbc").map ScriptedDriver.ofJson

/-- Something about each of the drivers that are installed. -/
def Drivers.report (ds : Drivers) (f : DriverRecord → Json) : Json :=
  .ofEntries ([Backend.native, Backend.odbc].filterMap fun b =>
    (ds.get? b).map fun d => (b.text, f d.record))

/-- Reads attributes: a list of pairs of number and value. -/
def LoginAttributes.ofJson (j : Json) : LoginAttributes :=
  (j.asArray.getD []).foldl (fun attributes entry =>
    match entry with
    | .array [.int number, .text digits] => attributes.set number (bytesOfHex digits)
    | _ => attributes) []

/-- Writes attributes by number. -/
def LoginAttributes.toJson (attributes : LoginAttributes) : Json :=
  .ofEntries (attributes.map fun (number, value) => (toString number, .text (hexOfBytes value)))

namespace DriverRecord

/-- How often each call was made. -/
def counters (r : DriverRecord) : List (String × Json) :=
  [("connects", .ofNat r.connectCalls.length),
    ("attempts", .ofNat r.attempts),
    ("executed", .ofNat r.statements.length),
    ("cursors", .ofNat r.cursors),
    ("rollbacks", .ofNat r.rollbacks),
    ("closes", .ofNat r.closes),
    ("sets_visited", .ofNat r.setsVisited),
    ("pooling", match r.pooling with
      | none => .null
      | some (enabled, max) => .array [.bool enabled, .ofNat max])]

/-- A summary of a record. -/
def summary (r : DriverRecord) : Json := .ofEntries r.counters

/-- Writes a record. -/
def toJson (r : DriverRecord) : Json :=
  .ofEntries (r.counters ++
    [("connect_calls", .array (r.connectCalls.map fun c => .ofEntries
        [("connection_string", .text c.connectionString),
          ("timeout", .ofNat c.timeout),
          ("autocommit", .bool c.autocommit),
          ("attrs", c.attributes.toJson)])),
      ("statements", .array (r.statements.map fun s => .ofEntries
        [("sql", .text s.sql), ("bindings", bindingsToJson s.bindings)])),
      ("converters", .array (r.converters.map .int)),
      ("query_timeouts", .array (r.queryTimeouts.map .ofNat))])

end DriverRecord

/-! ### Errors -/

/-- The backend of a name; every other name stands for the first backend. -/
def Backend.ofName (name : String) : Backend :=
  if name == Backend.odbc.text then .odbc else .native

/-- Reads an error. -/
def ConnectionError.ofJson (j : Json) : ConnectionError :=
  let detail := (j.text? "message").getD "boom"
  match j.str "kind" with
  | "Config" => .profile (.invalid (.other detail))
  | "MissingField" => .profile (.missingField detail)
  | "Backend" => .backend (.unavailable (.ofName (j.str "backend")) detail)
  | "InvalidPreference" => .backend (.invalidPreference (.other detail))
  | "AuthConfig" => .auth (.setup (.other detail))
  | "AuthNoProvider" => .auth (.noProvider detail)
  | "AuthProvider" => .auth (.provider "scripted" (.other detail))
  | "AuthUnsupported" => .auth (.unsupported detail)
  | "Transport" => .controlPlane (.transport detail)
  | "Http" => .controlPlane (.http (j.nat "status") detail)
  | "OperationTimeout" => .controlPlane (.operationTimeout detail (j.nat "attempts"))
  | "Driver" => .driver (.ofJson (j.field "driver"))
  | "Database" => .database detail
  | _ => .runtime detail

end WarehouseAccess
