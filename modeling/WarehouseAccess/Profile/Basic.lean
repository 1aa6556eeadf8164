import WarehouseAccess.Profile.Field
/-!
# Profiles

Everything that is needed to reach one warehouse: where it is, how to sign in, how long to wait and
how often to try again, and the workspace and name of its snapshot.
-/

namespace WarehouseAccess

/-- The address of the control plane when a profile gives none. -/
def defaultApiUrl : String := "https://api.fabric.microsoft.com/v1"

/-- The settings of one warehouse target.  Every field but the first three has a default. -/
structure Profile where
  host : String
  database : String
  schema : String
  driverBackend : DriverPreference := .auto
  /-- The driver that the driver manager loads. -/
  driver : Option String := none
  uid : Option String := none
  pwd : Option String := none
  windowsLogin : Bool := false
  traceFlag : Bool := false
  tenantId : Option String := none
  clientId : Option String := none
  clientSecret : Option String := none
  accessToken : Option String := none
  /-- When the access token expires; zero stands for 75 minutes from now. -/
  accessTokenExpiresOn : Option Int64 := some 0
  authentication : AuthenticationMode := .activeDirectoryServicePrincipal
  encrypt : Bool := true
  trustCert : Bool := false
  /-- How often to try to connect. -/
  retries : UInt32 := 3
  schemaAuthorization : Option String := none
  /-- Seconds to wait for the login; zero leaves it to the driver. -/
  loginTimeout : UInt64 := 0
  /-- Seconds to wait for a query; zero sets no limit. -/
  queryTimeout : UInt64 := 0
  workspaceId : Option String := none
  warehouseSnapshotName : Option String := none
  warehouseSnapshotId : Option String := none
  snapshotTimestamp : Option String := none
  apiUrl : String := defaultApiUrl
  pooling : Bool := true
  /-- A cached token with fewer seconds to live is replaced. -/
  tokenRefreshMarginSecs : UInt64 := 300
  snapshotPollMaxRetries : UInt32 := 5
  /-- Seconds between two looks at an operation when the service names no time. -/
  snapshotPollDelaySecs : UInt64 := 30
deriving DecidableEq, Repr

namespace Profile

/-- A profile with every optional setting at its default. -/
def new (host database schema : String) : Profile :=
  { host, database, schema }

/-- The profile with another authentication mode. -/
def withAuthentication (p : Profile) (mode : AuthenticationMode) : Profile :=
  { p with authentication := mode }

/-- The profile with a snapshot of the given name in the given workspace. -/
def withSnapshot (p : Profile) (workspaceId snapshotName : String) : Profile :=
  { p with workspaceId := some workspaceId, warehouseSnapshotName := some snapshotName }

/-- The value of a field. -/
def get (p : Profile) : (f : ProfileField) → f.kind.Value
  | .host => p.host
  | .database => p.database
  | .schema => p.schema
  | .driverBackend => p.driverBackend
  | .driver => p.driver
  | .uid => p.uid
  | .pwd => p.pwd
  | .windowsLogin => p.windowsLogin
  | .traceFlag => p.traceFlag
  | .tenantId => p.tenantId
  | .clientId => p.clientId
  | .clientSecret => p.clientSecret
  | .accessToken => p.accessToken
  | .accessTokenExpiresOn => p.accessTokenExpiresOn
  | .authentication => p.authentication
  | .encrypt => p.encrypt
  | .trustCert => p.trustCert
  | .retries => p.retries
  | .schemaAuthorization => p.schemaAuthorization
  | .loginTimeout => p.loginTimeout
  | .queryTimeout => p.queryTimeout
  | .workspaceId => p.workspaceId
  | .warehouseSnapshotName => p.warehouseSnapshotName
  | .warehouseSnapshotId => p.warehouseSnapshotId
  | .snapshotTimestamp => p.snapshotTimestamp
  | .apiUrl => p.apiUrl
  | .pooling => p.pooling
  | .tokenRefreshMarginSecs => p.tokenRefreshMarginSecs
  | .snapshotPollMaxRetries => p.snapshotPollMaxRetries
  | .snapshotPollDelaySecs => p.snapshotPollDelaySecs

/-- Workspace and snapshot name come together or not at all. -/
def checkSnapshotPair (p : Profile) : Except ProfileError Unit :=
  if p.workspaceId.isSome != p.warehouseSnapshotName.isSome then
    .error (.invalid .unpairedSnapshot)
  else .ok ()

/-- The profile as its checks leave it: integrated login takes the place of the mode. -/
def normalize (p : Profile) : Profile :=
  if p.windowsLogin then { p with authentication := .windowsLogin } else p

/-- Host and database have to be named. -/
def checkTarget (p : Profile) : Except ProfileError Unit :=
  if isBlankText p.host then .error (.missingField "host")
  else if isBlankText p.database then .error (.missingField "database")
  else .ok ()

/-- Checks a profile and settles its authentication mode.  The mode is settled before the snapshot
pair is looked at, so the second part holds it even when that check fails. -/
def validate (p : Profile) : Except ProfileError Unit × Profile :=
  match p.checkTarget with
  | .error e => (.error e, p)
  | .ok () => (p.normalize.checkSnapshotPair, p.normalize)

/-- A profile that passes all checks, as they leave it. -/
def validated (p : Profile) : Except ProfileError Profile :=
  match p.validate with
  | (.ok (), q) => .ok q
  | (.error e, _) => .error e

/-- The keys under which a profile is shown; no secret is among them. -/
def connectionKeys : List String :=
  ["server", "database", "schema", "warehouse_snapshot_name", "snapshot_timestamp", "UID",
    "workspace_id", "authentication", "retries", "login_timeout", "query_timeout", "trace_flag",
    "encrypt", "trust_cert", "api_url"]

/-- A flag as text. -/
def flagText (b : Bool) : String := if b then "true" else "false"

/-- What is shown under a key; none for a key that is not shown and for a value that is absent. -/
def connectionValue (p : Profile) (key : String) : Option String :=
  match key with
  | "server" => some p.host
  | "database" => some p.database
  | "schema" => some p.schema
  | "warehouse_snapshot_name" => p.warehouseSnapshotName
  | "snapshot_timestamp" => p.snapshotTimestamp
  | "UID" => p.uid
  | "workspace_id" => p.workspaceId
  | "authentication" => some p.authentication.text
  | "retries" => some (toString p.retries.toNat)
  | "login_timeout" => some (toString p.loginTimeout.toNat)
  | "query_timeout" => some (toString p.queryTimeout.toNat)
  | "trace_flag" => some (flagText p.traceFlag)
  | "encrypt" => some (flagText p.encrypt)
  | "trust_cert" => some (flagText p.trustCert)
  | "api_url" => some p.apiUrl
  | _ => none

/-- The name of the kind of target. -/
def typeName : String := "fabric"

/-- What tells two targets apart. -/
def uniqueField (p : Profile) : String := p.host

end Profile

end WarehouseAccess
