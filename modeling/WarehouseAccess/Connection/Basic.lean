import WarehouseAccess.Connection.Error
/-!
# Connections

A connection has a name, and while it is open a handle on a connection of a driver.  It belongs to
one worker at a time and can be opened again after it was closed.
-/

namespace WarehouseAccess

/-- How far a connection has come. -/
inductive ConnectionState where
  | unopened
  | opening
  | opened
  /-- The last attempt to open it failed. -/
  | failed
  /-- It was released, after use or after an error. -/
  | closed
deriving DecidableEq, Repr, Inhabited

/-- The name of a state. -/
def ConnectionState.text : ConnectionState → String
  | unopened => "Unopened"
  | opening => "Opening"
  | opened => "Open"
  | failed => "Failed"
  | closed => "Closed"

/-- A connection of the driver of a backend. -/
structure ConnectionHandle where
  backend : Backend
  /-- Seconds that a query may take. -/
  queryTimeout : Nat
deriving DecidableEq, Repr

/-- A named connection. -/
structure Connection where
  name : String
  state : ConnectionState
  handle : Option ConnectionHandle
deriving DecidableEq, Repr

namespace Connection

/-- A connection that was never opened. -/
def new (name : String) : Connection := ⟨name, .unopened, none⟩

/-- The connection is open. -/
def isOpen (c : Connection) : Bool := c.state == .opened

/-- The connection with a new handle. -/
def attach (c : Connection) (handle : ConnectionHandle) : Connection :=
  { c with state := .opened, handle := some handle }

/-- The error for using a connection that has no handle. -/
def notOpen (c : Connection) : ConnectionError :=
  .runtime ("Connection '" ++ c.name ++ "' is not open")

/-- The handle, or an error when there is none. -/
def requireHandle (c : Connection) : Except ConnectionError ConnectionHandle :=
  match c.handle with
  | some handle => .ok handle
  | none => .error c.notOpen

/-- Rolls back what is under way. -/
def rollback (c : Connection) (ds : Drivers) : Except DriverError Unit × Drivers :=
  match c.handle with
  | none => (.ok (), ds)
  | some handle => ds.act handle.backend (.ok ()) ScriptedDriver.rollback

/-- Closes the connection and gives up its handle, even if the driver fails to close. -/
def release (c : Connection) (ds : Drivers) : Except DriverError Unit × Connection × Drivers :=
  let closed : Connection := { c with state := .closed, handle := none }
  match c.handle with
  | none => (.ok (), closed, ds)
  | some handle =>
    let (outcome, ds) := ds.act handle.backend (.ok ()) ScriptedDriver.close
    (outcome, closed, ds)

/-- The description of a connection. -/
def describe (c : Connection) : String :=
  let timeout := match c.handle with
    | none => "None"
    | some handle => "Some(" ++ (Duration.ofSecs handle.queryTimeout).describe ++ ")"
  "Connection \x7b name: " ++ quoted c.name ++ ", state: " ++ c.state.text ++
    ", query_timeout: " ++ timeout ++ " \x7d"

end Connection

end WarehouseAccess
