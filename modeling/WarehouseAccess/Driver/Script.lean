import WarehouseAccess.Driver.Backend
import WarehouseAccess.Duration.Document
/-!
# Scripted drivers

A driver that plays back a script and records what is asked of it.  The script says which calls fail
and what statements return; the record tells what reached the driver, which is what the rules for
opening, retrying and closing speak about.

Some failures are used up one per call, others are raised by every call; steps to a next set have an
entry each, so that any of them may fail.  A cursor, next-set or fetch failure keeps the call from
being recorded; a failing rollback is recorded.
-/

namespace WarehouseAccess

/-- A call that opens a connection. -/
structure ConnectCall where
  connectionString : String
  /-- Seconds to wait for the login. -/
  timeout : Nat
  autocommit : Bool
  attributes : LoginAttributes
  /-- The driver opened a connection. -/
  accepted : Bool
deriving DecidableEq, Repr

/-- A statement that was carried out. -/
structure Statement where
  sql : String
  bindings : Option (List SqlValue)
deriving DecidableEq, Repr

/-- A result of a statement: rows, or none for a statement that has no columns. -/
abbrev ResultSet := Option (List Row)

/-- What a driver does when asked. -/
structure DriverScript where
  /-- Why the driver cannot run here. -/
  unsupported : Option String := none
  connectFailures : List DriverError := []
  executeFailures : List DriverError := []
  cursorFailures : List DriverError := []
  /-- For each step to a next set its failure, if it fails; steps past the end do not. -/
  nextSetFailures : List (Option DriverError) := []
  failingExecute : Option DriverError := none
  closeFailure : Option DriverError := none
  fetchFailure : Option DriverError := none
  rollbackFailure : Option DriverError := none
  resultSets : List ResultSet := []
  rowcount : Int := -1
deriving DecidableEq, Repr

/-- What was asked of a driver. -/
structure DriverRecord where
  connectCalls : List ConnectCall := []
  /-- Calls that carry out a statement, failed ones among them. -/
  attempts : Nat := 0
  statements : List Statement := []
  cursors : Nat := 0
  /-- Whether to pool, and how many connections at most. -/
  pooling : Option (Bool × Nat) := none
  converters : List Int := []
  queryTimeouts : List Nat := []
  rollbacks : Nat := 0
  closes : Nat := 0
  setsVisited : Nat := 0
deriving DecidableEq, Repr

/-- A driver with the rest of its script and its record. -/
structure ScriptedDriver where
  script : DriverScript
  record : DriverRecord := {}
deriving DecidableEq, Repr

/-- A cursor on the results of a statement; the first of its sets is the current one. -/
structure Cursor where
  sets : List ResultSet := []
  rowcount : Int := -1
deriving DecidableEq, Repr

/-- The error for fetching what a statement does not have. -/
def noResults : DriverError := ⟨.programming, "No results. Previous SQL was not a query."⟩

namespace ScriptedDriver

/-- Asks for a connection. -/
def connect (d : ScriptedDriver) (connectionString : String) (timeout : Nat) (autocommit : Bool)
    (attributes : LoginAttributes) : Except DriverError Unit × ScriptedDriver :=
  let record (accepted : Bool) : DriverRecord :=
    { d.record with connectCalls :=
        d.record.connectCalls ++ [⟨connectionString, timeout, autocommit, attributes, accepted⟩] }
  match d.script.connectFailures with
  | e :: rest => (.error e, ⟨{ d.script with connectFailures := rest }, record false⟩)
  | [] => (.ok (), ⟨d.script, record true⟩)

/-- Sets how connections are pooled. -/
def setPooling (d : ScriptedDriver) (enabled : Bool) (max : Nat) : ScriptedDriver :=
  { d with record.pooling := some (enabled, max) }

/-- Sets how many seconds the queries of a connection may take. -/
def setQueryTimeout (d : ScriptedDriver) (seconds : Nat) : ScriptedDriver :=
  { d with record.queryTimeouts := d.record.queryTimeouts ++ [seconds] }

/-- Registers a converter for columns of a type code. -/
def addConverter (d : ScriptedDriver) (typeCode : Int) : ScriptedDriver :=
  { d with record.converters := d.record.converters ++ [typeCode] }

/-- Asks a connection for a cursor. -/
def cursor (d : ScriptedDriver) : Except DriverError Cursor × ScriptedDriver :=
  match d.script.cursorFailures with
  | e :: rest => (.error e, { d with script.cursorFailures := rest })
  | [] => (.ok {}, { d with record.cursors := d.record.cursors + 1 })

/-- Rolls a connection back. -/
def rollback (d : ScriptedDriver) : Except DriverError Unit × ScriptedDriver :=
  let d' := { d with record.rollbacks := d.record.rollbacks + 1 }
  match d.script.rollbackFailure with
  | some e => (.error e, d')
  | none => (.ok (), d')

/-- Closes a connection. -/
def close (d : ScriptedDriver) : Except DriverError Unit × ScriptedDriver :=
  let d' := { d with record.closes := d.record.closes + 1 }
  match d.script.closeFailure with
  | some e => (.error e, d')
  | none => (.ok (), d')

/-- Carries out a statement on a cursor. -/
def execute (d : ScriptedDriver) (c : Cursor) (sql : String) (bindings : Option (List SqlValue)) :
    Except DriverError Unit × Cursor × ScriptedDriver :=
  let attempts := d.record.attempts + 1
  match d.script.executeFailures with
  | e :: rest =>
    (.error e, c, { script := { d.script with executeFailures := rest }
                    record := { d.record with attempts } })
  | [] =>
    match d.script.failingExecute with
    | some e => (.error e, c, { d with record := { d.record with attempts } })
    | none =>
      (.ok (), ⟨d.script.resultSets, d.script.rowcount⟩,
        { d with record := { d.record with
            attempts, statements := d.record.statements ++ [⟨sql, bindings⟩] } })

/-- Takes the rows of the current set, which has none left afterwards. -/
def fetchAll (d : ScriptedDriver) (c : Cursor) :
    Except DriverError (List Row) × Cursor :=
  match d.script.fetchFailure with
  | some e => (.error e, c)
  | none =>
    match c.sets with
    | some rows :: rest => (.ok rows, { c with sets := some [] :: rest })
    | _ => (.error noResults, c)

/-- Moves on to the next set; false when there is none. -/
def nextSet (d : ScriptedDriver) (c : Cursor) :
    Except DriverError Bool × Cursor × ScriptedDriver :=
  let d' := { d with script.nextSetFailures := d.script.nextSetFailures.tail }
  match d.script.nextSetFailures.head?.join with
  | some e => (.error e, c, d')
  | none =>
    match c.sets with
    | _ :: set :: rest =>
      (.ok true, { c with sets := set :: rest },
        { d' with record.setsVisited := d.record.setsVisited + 1 })
    | _ => (.ok false, c, d')

end ScriptedDriver

/-- The current set has columns. -/
def Cursor.hasColumns (c : Cursor) : Bool :=
  match c.sets with
  | some _ :: _ => true
  | _ => false

end WarehouseAccess
