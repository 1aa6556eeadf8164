import WarehouseAccess.Json.Basic
/-!
# Warehouses and snapshots

What the control plane lists, and what is kept of a snapshot that was made or brought up to date.
-/

namespace WarehouseAccess

/-- How a snapshot came to be current. -/
inductive SnapshotChange where
  | create
  | update
deriving DecidableEq, Repr

/-- The name of a change. -/
def SnapshotChange.text : SnapshotChange → String
  | create => "create"
  | update => "update"

/-- A snapshot that was made or brought up to date. -/
structure SnapshotRecord where
  snapshotId : Option String
  displayName : Option String
  warehouseId : Option String
  change : SnapshotChange
  /-- What the service said at the end. -/
  operation : Json
deriving Repr

/-- The text under two nested keys. -/
def Json.textUnder (outer inner : String) (j : Json) : Option String :=
  (j.get? outer).bind (Json.textAt inner)

/-- The item is a warehouse of the given name. -/
def isWarehouse (name : String) (item : Json) : Bool :=
  item.textAt "displayName" == some name && item.textAt "type" == some "Warehouse"

/-- The identifier of the first listed warehouse of a name. -/
def findWarehouseId (warehouses : List Json) (name : String) : Option String :=
  (warehouses.find? (isWarehouse name)).bind (Json.textAt "id")

/-- The item is a snapshot of the given warehouse and name. -/
def isSnapshot (warehouseId name : String) (item : Json) : Bool :=
  item.textUnder "properties" "parentWarehouseId" == some warehouseId &&
    item.textAt "displayName" == some name && item.textAt "type" == some "WarehouseSnapshot"

/-- The identifier of the first listed snapshot of a warehouse and name. -/
def findSnapshotId (snapshots : List Json) (warehouseId name : String) : Option String :=
  (snapshots.find? (isSnapshot warehouseId name)).bind (Json.textAt "id")

end WarehouseAccess
