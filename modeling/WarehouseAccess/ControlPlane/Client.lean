import WarehouseAccess.Calendar.Instant
import WarehouseAccess.ControlPlane.Operation
import WarehouseAccess.ControlPlane.Snapshot
import WarehouseAccess.Profile.Basic
/-!
# The client of the control plane

Listing warehouses and snapshots of a workspace, making a snapshot and bringing one up to date.
`orchestrate` makes the named snapshot of a warehouse current: it updates the snapshot where one is
listed and makes one otherwise, so calling it again does not make a second one.
-/

namespace WarehouseAccess

/-- How to reach the control plane of one workspace. -/
structure ControlPlaneClient where
  baseUrl : String := defaultApiUrl
  workspaceId : String
  /-- How often to look at an operation. -/
  pollLimit : Nat := defaultPollLimit
  /-- How long to pause between two looks when the service names no time. -/
  pollDelay : Duration := defaultPollDelay
deriving DecidableEq, Repr

namespace ControlPlaneClient

/-- The client with another address. -/
def withBaseUrl (c : ControlPlaneClient) (url : String) : ControlPlaneClient :=
  { c with baseUrl := dropFinal '/' url }

/-- The client that a profile asks for. -/
def ofProfile (p : Profile) (workspaceId : String) : ControlPlaneClient :=
  withBaseUrl
    { workspaceId
      pollLimit := p.snapshotPollMaxRetries.toNat
      pollDelay := .ofSecs p.snapshotPollDelaySecs.toNat }
    p.apiUrl

/-- An address inside the workspace. -/
def url (c : ControlPlaneClient) (path : String) : String :=
  c.baseUrl ++ "/workspaces/" ++ c.workspaceId ++ "/" ++ path

/-- An outcome that needs no exchange. -/
def settle {α : Type} (r : Except ControlPlaneError α) : Inquiry α := ExceptT.mk (.done r)

/-- The items of a listing; a body without a list of items lists none. -/
def listed (body : Json) : List Json :=
  ((body.get? "value").bind Json.asArray).getD []

/-- Lists what stands under a path. -/
def list (c : ControlPlaneClient) (path : String) : Inquiry (List Json) := do
  let response ← Inquiry.send (.get (c.url path))
  let response ← settle (Inquiry.checkStatus response)
  let body ← settle (Inquiry.body response)
  return listed body

/-- Lists the warehouses. -/
def listWarehouses (c : ControlPlaneClient) : Inquiry (List Json) := c.list "warehouses"

/-- Lists the snapshots of warehouses. -/
def listSnapshots (c : ControlPlaneClient) : Inquiry (List Json) := c.list "warehousesnapshots"

/-- The body that asks for a new snapshot. -/
def creationBody (warehouseId snapshotName stamp : String) : Json :=
  .ofEntries [
    ("displayName", .text snapshotName),
    ("description", .text ("Warehouse snapshot created at " ++ stamp)),
    ("creationPayload", .ofEntries [
      ("parentWarehouseId", .text warehouseId),
      ("snapshotDateTime", .text stamp)])]

/-- The pause between two looks at an operation: what the service names, if that is a number of
seconds, and else what the client is set to. -/
def delayAfter (c : ControlPlaneClient) (accepted : HttpResponse) : Duration :=
  match (accepted.header "Retry-After").bind fun v => readUnsigned 0x10000000000000000 (trim v) with
  | some seconds => .ofSecs seconds
  | none => c.pollDelay

/-- The identifier that the result of an operation names. -/
def resultId (result : Json) : Option String :=
  (result.textAt "resourceId").or ((result.textUnder "result" "id").or (result.textAt "id"))

/-- Waits for a snapshot that the service has accepted to make. -/
def awaitCreate (c : ControlPlaneClient) (accepted : HttpResponse)
    (warehouseId snapshotName : String) : Inquiry SnapshotRecord := do
  match (accepted.header "Location").filter (· != "") with
  | none => settle (.error .missingLocation)
  | some location =>
    let id := (accepted.header "x-ms-operation-id").getD "unknown"
    let result ← Operation.pollUntilDone location id (c.delayAfter accepted) c.pollLimit
    return {
      snapshotId := resultId result
      displayName := some snapshotName
      warehouseId := some warehouseId
      change := .create
      operation := result }

/-- Makes a snapshot of a warehouse. -/
def createSnapshot (c : ControlPlaneClient) (warehouseId snapshotName : String) :
    Inquiry SnapshotRecord := do
  let now ← Inquiry.clock
  let response ← Inquiry.send
    (.post (c.url "warehousesnapshots") (creationBody warehouseId snapshotName (utcStamp now)))
  if response.status = 201 then
    let body ← settle (Inquiry.body response)
    return {
      snapshotId := body.textAt "id"
      displayName := (body.textAt "displayName").or (some snapshotName)
      warehouseId := some warehouseId
      change := .create
      operation := body }
  else if response.status = 202 then c.awaitCreate response warehouseId snapshotName
  else if response.isSuccess then
    settle (.error (.invalidResponse (.whileCreating snapshotName)))
  else settle (.error (.http response.status response.body))

/-- The body that asks to bring a snapshot up to date. -/
def updateBody (stamp : String) : Json :=
  .ofEntries [
    ("description", .text ("Warehouse snapshot updated at " ++ stamp)),
    ("properties", .ofEntries [("snapshotDateTime", .text stamp)])]

/-- Brings a snapshot up to date. -/
def updateSnapshot (c : ControlPlaneClient) (snapshotId : String) : Inquiry SnapshotRecord := do
  let now ← Inquiry.clock
  let response ← Inquiry.send
    (.patch (c.url ("warehousesnapshots/" ++ snapshotId)) (updateBody (utcStamp now)))
  let response ← settle (Inquiry.checkStatus response)
  let body ← settle (Inquiry.body response)
  return {
    snapshotId := (body.textAt "id").or (some snapshotId)
    displayName := body.textAt "displayName"
    warehouseId := body.textUnder "properties" "parentWarehouseId"
    change := .update
    operation := body }

/-- Makes the named snapshot of a warehouse current. -/
def orchestrate (c : ControlPlaneClient) (warehouseName snapshotName : String) :
    Inquiry SnapshotRecord := do
  let warehouses ← c.listWarehouses
  match findWarehouseId warehouses warehouseName with
  | none => settle (.error (.warehouseNotFound warehouseName c.workspaceId))
  | some warehouseId =>
    let snapshots ← c.listSnapshots
    match findSnapshotId snapshots warehouseId snapshotName with
    | some snapshotId => c.updateSnapshot snapshotId
    | none => c.createSnapshot warehouseId snapshotName

/-- Brings a recorded snapshot up to date; nothing is done for one without identifier. -/
def refresh (c : ControlPlaneClient) (record : SnapshotRecord) :
    Inquiry (Option SnapshotRecord) := do
  match record.snapshotId with
  | some snapshotId => return some (← c.updateSnapshot snapshotId)
  | none => return none

/-- The description of a client. -/
def describe (c : ControlPlaneClient) : String :=
  "ControlPlaneClient \x7b base_url: " ++ quoted c.baseUrl ++ ", workspace_id: " ++
    quoted c.workspaceId ++ ", max_retries: " ++ toString c.pollLimit ++ ", poll_delay: " ++
    c.pollDelay.describe ++ " \x7d"

/-- The description of a client by what it is for. -/
def describeAsOrchestrator (c : ControlPlaneClient) : String :=
  "SnapshotOrchestrator \x7b client: " ++ c.describe ++ " \x7d"

end ControlPlaneClient

end WarehouseAccess
