import WarehouseAccess.Driver.Basic
import WarehouseAccess.Profile.Basic
/-!
# Connection strings

A connection string is a list of fields `key=value`, joined by semicolons.  Both drivers are given
the same fields: server and database, how to sign in, whether to encrypt and to trust the server's
certificate, the name of the application, and how often to try again.  The driver manager needs the
name of the driver as well, spells two keys in lower case, and takes user and secret in braces.
-/

namespace WarehouseAccess

/-- What a connection string is made from. -/
structure ConnectionTarget where
  host : String
  database : String
  authentication : AuthenticationMode
  encrypt : Bool
  trustCert : Bool
  applicationName : String
  traceFlag : Bool
  driver : Option String
  uid : Option String
  pwd : Option String
  windowsLogin : Bool
deriving DecidableEq, Repr

/-- One field of a connection string. -/
structure ConnectionField where
  key : String
  value : String
  /-- The value stands in braces. -/
  braced : Bool := false
deriving DecidableEq, Repr

/-- The characters of a field. -/
def ConnectionField.render (f : ConnectionField) : List Char :=
  let value :=
    if f.braced then Char.ofNat 0x7B :: (f.value.toList ++ [Char.ofNat 0x7D]) else f.value.toList
  f.key.toList ++ '=' :: value

/-- Fields joined by semicolons. -/
def renderFields : List ConnectionField → List Char
  | [] => []
  | [f] => f.render
  | f :: rest => f.render ++ ';' :: renderFields rest

/-- A flag as the value of a field. -/
def yesNo (b : Bool) : String := if b then "Yes" else "No"

/-- The driver that is loaded when the profile names none. -/
def defaultDriverName : String := "ODBC Driver 18 for SQL Server"

namespace ConnectionTarget

/-- The target of a profile, for a given user and secret. -/
def ofProfile (p : Profile) (applicationName : String) (uid pwd : Option String) :
    ConnectionTarget where
  host := p.host
  database := p.database
  authentication := p.authentication
  encrypt := p.encrypt
  trustCert := p.trustCert
  applicationName := applicationName
  traceFlag := p.traceFlag
  driver := p.driver
  uid := uid
  pwd := pwd
  windowsLogin := p.windowsLogin

/-- The service refuses to sign in with the password of a database user. -/
def IsRefused (t : ConnectionTarget) : Prop :=
  t.windowsLogin = false ∧ t.authentication = .sql

instance (t : ConnectionTarget) : Decidable t.IsRefused := inferInstanceAs (Decidable (_ ∧ _))

/-- The wording of the refusal. -/
def refusal : DriverError :=
  ⟨.database, "SQL Authentication is not supported by Microsoft Fabric"⟩

/-- The fields that say how to sign in, given the spelling of the key for integrated login and
whether user and secret stand in braces. -/
def loginFields (t : ConnectionTarget) (trustedKey : String) (braced : Bool) :
    List ConnectionField :=
  if t.windowsLogin then [⟨trustedKey, "Yes", false⟩]
  else if t.authentication.emitsField then
    ⟨"Authentication", t.authentication.text, false⟩ ::
      ((if t.authentication.needsLoginHint then t.uid else none).toList.map
          (⟨"UID", ·, braced⟩) ++
        (if t.authentication.needsSecret then t.pwd else none).toList.map (⟨"PWD", ·, braced⟩))
  else []

/-- The fields behind those, given the spelling of the key for encryption. -/
def finalFields (t : ConnectionTarget) (encryptKey : String) : List ConnectionField :=
  [⟨encryptKey, yesNo t.encrypt, false⟩,
    ⟨"TrustServerCertificate", yesNo t.trustCert, false⟩,
    ⟨"APP", t.applicationName, false⟩,
    ⟨"ConnectRetryCount", "3", false⟩,
    ⟨"ConnectRetryInterval", "10", false⟩]

/-- The fields for the native driver. -/
def nativeFields (t : ConnectionTarget) : List ConnectionField :=
  [⟨"SERVER", t.host, false⟩, ⟨"Database", t.database, false⟩] ++
    t.loginFields "Trusted_Connection" false ++ t.finalFields "Encrypt"

/-- The fields for the driver manager. -/
def odbcFields (t : ConnectionTarget) : List ConnectionField :=
  [⟨"DRIVER", t.driver.getD defaultDriverName, true⟩, ⟨"SERVER", t.host, false⟩,
      ⟨"Database", t.database, false⟩, ⟨"Pooling", "true", false⟩,
      ⟨"SQL_ATTR_TRACE", if t.traceFlag then "SQL_OPT_TRACE_ON" else "SQL_OPT_TRACE_OFF", false⟩] ++
    t.loginFields "trusted_connection" true ++ t.finalFields "encrypt"

end ConnectionTarget

end WarehouseAccess
