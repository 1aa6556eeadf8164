import WarehouseAccess.ControlPlane.Exchange
import WarehouseAccess.ControlPlane.Snapshot
import WarehouseAccess.Json.Fields
/-!
# Scripted control planes

A peer that plays back replies in order, at a clock that stands still.  Replies can be written down
in JSON, with the body as a text or as a value, and so can requests and snapshots.
-/

namespace WarehouseAccess

/-- A peer that plays back replies in order; when none is left it answers no more. -/
def scriptedPeer (now : Int) : Exchange.Peer (List HttpReply) where
  answer request replies :=
    match replies with
    | reply :: rest => (reply, rest)
    | [] =>
      (.failure ("no scripted response for " ++ request.method.text ++ " " ++ request.url), [])
  now replies := (now, replies)

/-- Reads a response. -/
def HttpResponse.ofJson (j : Json) : HttpResponse where
  status := j.nat "status"
  headers := (j.items "headers").filterMap fun
    | .array [.text name, .text value] => some (name, value)
    | _ => none
  body := match j.get? "json" with
    | some value => value.render
    | none => j.str "body"

/-- Reads a reply. -/
def HttpReply.ofJson (j : Json) : HttpReply :=
  match j.text? "fail" with
  | some reason => .failure reason
  | none => .response (.ofJson j)

/-- Writes a request. -/
def HttpRequest.toJson (r : HttpRequest) : Json :=
  .ofEntries ([("method", .text r.method.text), ("url", .text r.url)] ++
    (r.body.map fun body => ("body", body)).toList)

/-- Writes a snapshot. -/
def SnapshotRecord.toJson (r : SnapshotRecord) : Json :=
  .ofEntries [("snapshotId", .ofText? r.snapshotId),
    ("displayName", .ofText? r.displayName),
    ("warehouseId", .ofText? r.warehouseId),
    ("operationType", .text r.change.text),
    ("operation", r.operation),
    ("operationText", .text r.change.text)]

end WarehouseAccess
