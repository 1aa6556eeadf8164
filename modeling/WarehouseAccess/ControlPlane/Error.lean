/-!
# Errors of the control plane

What can go wrong while talking to the service that manages warehouses and snapshots.
-/

namespace WarehouseAccess

/-- Why a response cannot be used. -/
inductive UnusableResponse where
  /-- The body is no JSON text. -/
  | notJson (status : Nat)
  /-- The status is one of success but has no meaning for an operation. -/
  | whilePolling (operationId : String)
  /-- The status is one of success but has no meaning for a new snapshot. -/
  | whileCreating (snapshotName : String)
deriving DecidableEq, Repr

/-- The wording of a reason. -/
def UnusableResponse.message : UnusableResponse → String
  | notJson status => "HTTP " ++ toString status ++ " body is not JSON"
  | whilePolling operationId => "unexpected status while polling operation " ++ operationId
  | whileCreating snapshotName =>
    "Unexpected response status while creating snapshot '" ++ snapshotName ++ "'"

/-- An error of the control plane. -/
inductive ControlPlaneError where
  /-- The service says that the operation failed. -/
  | operationFailed (operationId code detail : String)
  /-- The operation did not end within so many looks at it. -/
  | operationTimeout (operationId : String) (attempts : Nat)
  | http (status : Nat) (body : String)
  /-- No response came. -/
  | transport (reason : String)
  | warehouseNotFound (warehouse workspaceId : String)
  | invalidResponse (why : UnusableResponse)
  /-- The service accepted an operation without saying where to look at it. -/
  | missingLocation
deriving DecidableEq, Repr

/-- The name of an error's kind. -/
def ControlPlaneError.kind : ControlPlaneError → String
  | operationFailed .. => "OperationFailed"
  | operationTimeout .. => "OperationTimeout"
  | http .. => "Http"
  | transport _ => "Transport"
  | warehouseNotFound .. => "WarehouseNotFound"
  | invalidResponse _ => "InvalidResponse"
  | missingLocation => "MissingLocation"

/-- The wording of an error. -/
def ControlPlaneError.message : ControlPlaneError → String
  | operationFailed operationId code detail =>
    "Operation " ++ operationId ++ " failed: " ++ code ++ " - " ++ detail
  | operationTimeout operationId attempts =>
    "Operation " ++ operationId ++ " timed out after " ++ toString attempts ++ " attempts"
  | http status body => "HTTP " ++ toString status ++ ": " ++ body
  | transport reason => "Transport error: " ++ reason
  | warehouseNotFound warehouse workspaceId =>
    "Warehouse '" ++ warehouse ++ "' not found in workspace " ++ workspaceId
  | invalidResponse why => "Invalid response: " ++ why.message
  | missingLocation => "202 response received but no Location header found"

end WarehouseAccess
