import WarehouseAccess.ControlPlane.Error
import WarehouseAccess.Driver.Registry
import WarehouseAccess.Token.Basic
/-!
# Errors of connections

Errors of the layers below are passed on with their own wording.  Two kinds are made here: an error
of the database that ended the use of a connection, and any other failure while a statement ran.
-/

namespace WarehouseAccess

/-- An error of a connection or its manager. -/
inductive ConnectionError where
  | profile (e : ProfileError)
  | backend (e : BackendError)
  | auth (e : AuthError)
  | driver (e : DriverError)
  | controlPlane (e : ControlPlaneError)
  /-- An error of the database, after which the connection was closed. -/
  | database (detail : String)
  /-- Any other failure while a statement ran. -/
  | runtime (detail : String)
deriving DecidableEq, Repr

namespace ConnectionError

/-- The name of an error's kind; that of a passed-on error names the layer first. -/
def kind : ConnectionError → String
  | profile e => "Config/" ++ e.kind
  | backend e => "Backend/" ++ e.kind
  | auth e => "Auth/" ++ e.kind
  | driver e => "Driver/" ++ e.kind.text
  | controlPlane e => "ControlPlane/" ++ e.kind
  | database _ => "Database"
  | runtime _ => "Runtime"

/-- The wording of an error. -/
def message : ConnectionError → String
  | profile e => e.message
  | backend e => e.message
  | auth e => e.message
  | driver e => e.message
  | controlPlane e => e.message
  | database detail => "Database Error\n  " ++ detail
  | runtime detail => "Runtime Error\n  " ++ detail

/-- The error was made at the boundary around statements. -/
def isInternal : ConnectionError → Bool
  | database _ => true
  | runtime _ => true
  | _ => false

/-- The driver error that is passed on. -/
def driverError? : ConnectionError → Option DriverError
  | driver e => some e
  | _ => none

/-- The error is worth another attempt to connect. -/
def isRetryable (b : Backend) (e : ConnectionError) : Bool :=
  e.driverError?.any b.isRetryable

end ConnectionError

end WarehouseAccess
