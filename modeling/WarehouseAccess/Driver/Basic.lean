import WarehouseAccess.Calendar
import WarehouseAccess.Number.Binary64
/-!
# Values and errors of drivers

What goes in and out of a database driver.  Values are bound to a statement or fetched from its
results; dates and times are bound as text, since not every driver takes them otherwise.  The errors
that a driver reports come in eight kinds; all but the first concern the database rather than the
driver itself.
-/

namespace WarehouseAccess

/-! ### Errors -/

/-- The kinds of driver errors. -/
inductive DriverErrorKind where
  /-- A failure of the driver itself. -/
  | interface
  | database
  /-- A failure of the connection or of the running of the server. -/
  | operational
  /-- A state that the driver or the server should not be in. -/
  | internal
  /-- A faulty statement. -/
  | programming
  /-- A violated constraint. -/
  | integrity
  | data
  | notSupported
deriving DecidableEq, Repr, Inhabited

namespace DriverErrorKind

/-- Every kind. -/
def all : List DriverErrorKind :=
  [interface, database, operational, internal, programming, integrity, data, notSupported]

/-- The name of a kind. -/
def text : DriverErrorKind → String
  | interface => "InterfaceError"
  | database => "DatabaseError"
  | operational => "OperationalError"
  | internal => "InternalError"
  | programming => "ProgrammingError"
  | integrity => "IntegrityError"
  | data => "DataError"
  | notSupported => "NotSupportedError"

/-- The kind concerns the database. -/
def isDatabase : DriverErrorKind → Bool
  | interface => false
  | _ => true

end DriverErrorKind

/-- An error of a driver. -/
structure DriverError where
  kind : DriverErrorKind
  detail : String
deriving DecidableEq, Repr, Inhabited

namespace DriverError

/-- The wording of an error. -/
def message (e : DriverError) : String := e.kind.text ++ ": " ++ e.detail

/-- The error concerns the database. -/
def isDatabase (e : DriverError) : Bool := e.kind.isDatabase

end DriverError

/-! ### Values -/

/-- A value of a column or parameter. -/
inductive SqlValue where
  | null
  | bool (b : Bool)
  | int (n : Int)
  | float (x : Binary64)
  | text (s : String)
  | bytes (b : List UInt8)
  | dateTime (t : DateTime)
  | dateTimeOffset (t : OffsetDateTime)
deriving DecidableEq, Repr

/-- A row of a result. -/
abbrev Row := List SqlValue

/-- The value as it is bound. -/
def SqlValue.toParameter : SqlValue → SqlValue
  | dateTime t => text (String.ofList t.isoText)
  | dateTimeOffset t => text (String.ofList t.isoText)
  | v => v

/-- The parameters of a statement as they are bound. -/
def bindParameters (bindings : Option (List SqlValue)) : Option (List SqlValue) :=
  bindings.map fun values => values.map SqlValue.toParameter

end WarehouseAccess
