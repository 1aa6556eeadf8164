import WarehouseAccess.Driver.Basic
import WarehouseAccess.Driver.ConnectionString
/-!
# Backends

The two ways to a database driver, and what is different between them: the fields of the connection
string, where an access token goes, and which errors are worth another attempt.
-/

namespace WarehouseAccess

/-- The two backends. -/
inductive Backend where
  /-- A driver that takes all it needs from the connection string. -/
  | native
  /-- A driver behind the driver manager, which is given access tokens beside the connection
  string. -/
  | odbc
deriving DecidableEq, Repr, Inhabited

namespace Backend

/-- The name of a backend. -/
def text : Backend → String
  | native => "native"
  | odbc => "odbc"

/-- The name as descriptions of values show it. -/
def tag : Backend → String
  | native => "Native"
  | odbc => "Odbc"

/-- Access tokens are handed over as bytes before the login. -/
def requiresTokenBytes : Backend → Bool
  | native => false
  | odbc => true

/-- The kinds of errors that are worth another attempt. -/
def retryableKinds : Backend → List DriverErrorKind
  | native => [.operational, .interface]
  | odbc => [.internal, .operational, .interface]

/-- An error is worth another attempt. -/
def isRetryable (b : Backend) (e : DriverError) : Bool := b.retryableKinds.contains e.kind

/-- The fields of the connection string for a backend. -/
def fields : Backend → ConnectionTarget → List ConnectionField
  | native, t => t.nativeFields
  | odbc, t => t.odbcFields

/-- The connection string for a backend. -/
def connectionString (b : Backend) (t : ConnectionTarget) : Except DriverError String :=
  if t.IsRefused then .error ConnectionTarget.refusal
  else .ok (String.ofList (renderFields (b.fields t)))

end Backend

/-- Attributes that are set before the login, by number, each at most once. -/
abbrev LoginAttributes := List (Int × List UInt8)

/-- The number of the attribute for an access token. -/
def accessTokenAttribute : Int := 1256

/-- The type code of columns of dates and times with an offset. -/
def timestampTypeCode : Int := -155

namespace LoginAttributes

/-- Sets an attribute; an earlier value of the same number is given up. -/
def set (number : Int) (value : List UInt8) (attributes : LoginAttributes) : LoginAttributes :=
  attributes.filter (·.1 != number) ++ [(number, value)]

/-- The attributes that hand over an encoded access token. -/
def accessToken (encoded : List UInt8) : LoginAttributes := [(accessTokenAttribute, encoded)]

end LoginAttributes

namespace Backend

/-- The attributes that reach the driver; the native driver takes none. -/
def attributes : Backend → LoginAttributes → LoginAttributes
  | native, _ => []
  | odbc, attributes => attributes

end Backend

end WarehouseAccess
