import WarehouseAccess.Profile.Choices
/-!
# The fields of a profile

A profile has thirty fields.  Each has a name, further names under which documents may give it, and
a kind; the kind fixes the type of its value.
-/

namespace WarehouseAccess

/-- The kinds of fields. -/
inductive FieldKind where
  | text
  | optionalText
  | flag
  /-- An unsigned number of 32 bits. -/
  | word32
  /-- An unsigned number of 64 bits. -/
  | word64
  /-- A signed number of 64 bits that may be absent. -/
  | optionalInteger
  | authentication
  | driverPreference
deriving DecidableEq, Repr

/-- The type of the values of a kind. -/
@[reducible] def FieldKind.Value : FieldKind → Type
  | text => String
  | optionalText => Option String
  | flag => Bool
  | word32 => UInt32
  | word64 => UInt64
  | optionalInteger => Option Int64
  | authentication => AuthenticationMode
  | driverPreference => DriverPreference

/-- The fields of a profile, in the order of the documents that hold it. -/
inductive ProfileField where
  | host
  | database
  | schema
  | driverBackend
  | driver
  | uid
  | pwd
  | windowsLogin
  | traceFlag
  | tenantId
  | clientId
  | clientSecret
  | accessToken
  | accessTokenExpiresOn
  | authentication
  | encrypt
  | trustCert
  | retries
  | schemaAuthorization
  | loginTimeout
  | queryTimeout
  | workspaceId
  | warehouseSnapshotName
  | warehouseSnapshotId
  | snapshotTimestamp
  | apiUrl
  | pooling
  | tokenRefreshMarginSecs
  | snapshotPollMaxRetries
  | snapshotPollDelaySecs
deriving DecidableEq, Repr

namespace ProfileField

/-- Every field, in order. -/
def all : List ProfileField :=
  [host, database, schema, driverBackend, driver, uid, pwd, windowsLogin, traceFlag, tenantId,
    clientId, clientSecret, accessToken, accessTokenExpiresOn, authentication, encrypt, trustCert,
    retries, schemaAuthorization, loginTimeout, queryTimeout, workspaceId, warehouseSnapshotName,
    warehouseSnapshotId, snapshotTimestamp, apiUrl, pooling, tokenRefreshMarginSecs,
    snapshotPollMaxRetries, snapshotPollDelaySecs]

/-- The name of a field in documents. -/
def name : ProfileField → String
  | host => "host"
  | database => "database"
  | schema => "schema"
  | driverBackend => "driver_backend"
  | driver => "driver"
  | uid => "uid"
  | pwd => "pwd"
  | windowsLogin => "windows_login"
  | traceFlag => "trace_flag"
  | tenantId => "tenant_id"
  | clientId => "client_id"
  | clientSecret => "client_secret"
  | accessToken => "access_token"
  | accessTokenExpiresOn => "access_token_expires_on"
  | authentication => "authentication"
  | encrypt => "encrypt"
  | trustCert => "trust_cert"
  | retries => "retries"
  | schemaAuthorization => "schema_authorization"
  | loginTimeout => "login_timeout"
  | queryTimeout => "query_timeout"
  | workspaceId => "workspace_id"
  | warehouseSnapshotName => "warehouse_snapshot_name"
  | warehouseSnapshotId => "warehouse_snapshot_id"
  | snapshotTimestamp => "snapshot_timestamp"
  | apiUrl => "api_url"
  | pooling => "pooling"
  | tokenRefreshMarginSecs => "token_refresh_margin_secs"
  | snapshotPollMaxRetries => "snapshot_poll_max_retries"
  | snapshotPollDelaySecs => "snapshot_poll_delay_secs"

/-- The other names under which a document may give a field. -/
def aliases : ProfileField → List String
  | host => ["server"]
  | uid => ["UID", "user", "username"]
  | pwd => ["PWD", "pass", "password"]
  | windowsLogin => ["trusted_connection"]
  | traceFlag => ["SQL_ATTR_TRACE"]
  | clientId => ["app_id"]
  | clientSecret => ["app_secret"]
  | authentication => ["auth"]
  | trustCert => ["TrustServerCertificate"]
  | schemaAuthorization => ["schema_auth"]
  | _ => []

/-- Every name under which a document may give a field. -/
def names (f : ProfileField) : List String := f.name :: f.aliases

/-- The field that a name stands for. -/
def ofName? (s : String) : Option ProfileField :=
  all.find? fun f => f.names.contains s

/-- The kind of a field. -/
@[reducible] def kind : ProfileField → FieldKind
  | host | database | schema | apiUrl => .text
  | driverBackend => .driverPreference
  | windowsLogin | traceFlag | encrypt | trustCert | pooling => .flag
  | accessTokenExpiresOn => .optionalInteger
  | authentication => .authentication
  | retries | snapshotPollMaxRetries => .word32
  | loginTimeout | queryTimeout | tokenRefreshMarginSecs | snapshotPollDelaySecs => .word64
  | driver | uid | pwd | tenantId | clientId | clientSecret | accessToken | schemaAuthorization
  | workspaceId | warehouseSnapshotName | warehouseSnapshotId | snapshotTimestamp => .optionalText

theorem mem_all (f : ProfileField) : f ∈ all := by
  cases f <;> decide

end ProfileField

end WarehouseAccess
