import WarehouseAccess.Driver.Script
import WarehouseAccess.Json.Fields
import WarehouseAccess.Number.Digits
/-!
# Scripts of drivers as documents

Values of statements, errors of drivers and scripts of drivers can be written down in JSON.  A value
carries the name of its type; bytes are in base sixteen, as are the bits of a floating-point number,
and dates and times are lists of their parts.
-/

namespace WarehouseAccess

/-- The integers of a list. -/
def Json.integers (j : Json) : List Int :=
  (j.asArray.getD []).map fun
    | .int n => n
    | _ => 0

namespace DateTime

/-- The date and time of a list of parts. -/
def ofParts : List Int → DateTime
  | [year, month, day, hour, minute, second, nanosecond] =>
    { year
      month := month.toNat
      day := day.toNat
      hour := hour.toNat
      minute := minute.toNat
      second := second.toNat
      nanosecond := nanosecond.toNat }
  | _ => default

/-- The parts of a date and time. -/
def parts (t : DateTime) : List Json :=
  .int t.year :: [t.month, t.day, t.hour, t.minute, t.second, t.nanosecond].map .ofNat

end DateTime

namespace SqlValue

/-- Reads a value. -/
def ofJson : Json → SqlValue
  | .object [("bool", .bool b)] => .bool b
  | .object [("int", .int n)] => .int n
  | .object [("float", .text bits)] => .float ⟨.ofNat ((hexNumber bits.toList).getD 0)⟩
  | .object [("text", .text s)] => .text s
  | .object [("bytes", .text digits)] => .bytes (bytesOfHex digits)
  | .object [("datetime", t)] => .dateTime (.ofParts t.integers)
  | .object [("datetimeoffset", t)] =>
    .dateTimeOffset ⟨.ofParts (t.integers.take 7), (t.integers.drop 7).headD 0⟩
  | _ => .null

/-- Writes a value. -/
def toJson : SqlValue → Json
  | null => .null
  | bool b => .ofEntries [("bool", .bool b)]
  | int n => .ofEntries [("int", .int n)]
  | float x =>
    let digits := hexDigits x.bits.toNat
    .ofEntries
      [("float", .text (String.ofList (List.replicate (16 - digits.length) '0' ++ digits)))]
  | text s => .ofEntries [("text", .text s)]
  | bytes b => .ofEntries [("bytes", .text (hexOfBytes b))]
  | dateTime t => .ofEntries [("datetime", .array t.parts)]
  | dateTimeOffset t => .ofEntries [("datetimeoffset", .array (t.wall.parts ++ [.int t.offset]))]

end SqlValue

/-- Writes rows. -/
def rowsToJson (rows : List Row) : Json := .array (rows.map fun r => .array (r.map SqlValue.toJson))

/-- Reads the parameters of a statement. -/
def bindingsOfJson (j : Json) : Option (List SqlValue) :=
  j.asArray.map fun l => l.map SqlValue.ofJson

/-- Writes the parameters of a statement. -/
def bindingsToJson : Option (List SqlValue) → Json
  | none => .null
  | some values => .array (values.map SqlValue.toJson)

/-- Reads an error: its kind and its text. -/
def DriverError.ofJson (j : Json) : DriverError :=
  match j.asArray with
  | some [.text kind, .text detail] =>
    ⟨(DriverErrorKind.all.find? fun k => k.text == kind).getD .interface, detail⟩
  | _ => default

/-- Reads a script. -/
def DriverScript.ofJson (j : Json) : DriverScript where
  unsupported := j.text? "unsupported"
  connectFailures := (j.items "connect_failures").map DriverError.ofJson
  executeFailures := (j.items "execute_failures").map DriverError.ofJson
  cursorFailures := (j.items "cursor_failures").map DriverError.ofJson
  nextSetFailures := (j.items "next_set_failures").map fun e => some (.ofJson e)
  failingExecute := (j.field? "failing_execute").map DriverError.ofJson
  closeFailure := (j.field? "close_failure").map DriverError.ofJson
  fetchFailure := (j.field? "fetch_failure").map DriverError.ofJson
  rollbackFailure := (j.field? "rollback_failure").map DriverError.ofJson
  resultSets := (j.items "result_sets").map fun set =>
    set.asArray.map fun rows => rows.map fun r => (r.asArray.getD []).map SqlValue.ofJson
  rowcount := (j.int? "rowcount").getD (-1)

/-- A driver with the given script. -/
def ScriptedDriver.ofJson (j : Json) : ScriptedDriver := { script := .ofJson j }

end WarehouseAccess
