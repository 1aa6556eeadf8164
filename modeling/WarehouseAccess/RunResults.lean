import WarehouseAccess.Json.Fields
import WarehouseAccess.Json.Record
import WarehouseAccess.Text.Utf8
/-!
# Results of a run

The host writes down how each node of a run ended.  Only the status of the nodes is looked at, and
it decides whether the snapshot is refreshed at the end of the run.
-/

namespace WarehouseAccess

/-- How one node ended. -/
structure NodeResult where
  status : Option String
  uniqueId : Option String
deriving DecidableEq, Repr

/-- How the nodes of a run ended. -/
structure RunResults where
  results : List NodeResult
deriving DecidableEq, Repr

/-- How a run ended as a whole. -/
inductive RunStatus where
  | success
  | error
  | unknown
deriving DecidableEq, Repr

/-- The name of a status. -/
def RunStatus.text : RunStatus → String
  | success => "success"
  | error => "error"
  | unknown => "unknown"

/-- One node of a document. -/
def NodeResult.ofSyntax (v : JsonSyntax) : Option NodeResult := do
  match ← v.record ["status", "unique_id"] with
  | [status, uniqueId] =>
    let status ← JsonSyntax.fieldOr none JsonSyntax.asTextOrNull status
    let uniqueId ← JsonSyntax.fieldOr none JsonSyntax.asTextOrNull uniqueId
    return ⟨status, uniqueId⟩
  | _ => none

namespace RunResults

/-- The nodes of a document. -/
def nodes : JsonSyntax → Option (List NodeResult)
  | .array items => items.mapM NodeResult.ofSyntax
  | _ => none

/-- The results that a parsed document holds; without the field there are none. -/
def ofSyntax (v : JsonSyntax) : Option RunResults := do
  match ← v.record ["results"] with
  | [results] => return ⟨← JsonSyntax.fieldOr [] nodes results⟩
  | _ => none

/-- Reads a document; none when it is not of the form. -/
def ofJson? (document : String) : Option RunResults :=
  (JsonSyntax.read document).bind ofSyntax

/-- Writes results. -/
def toJson (r : RunResults) : Json :=
  .ofEntries [("results", .array (r.results.map fun n => .ofEntries
    [("status", .ofText? n.status), ("unique_id", .ofText? n.uniqueId)]))]

/-- A node failed. -/
def NodeFailed (n : NodeResult) : Prop := n.status = some "error"

instance (n : NodeResult) : Decidable (NodeFailed n) := inferInstanceAs (Decidable (_ = _))

/-- A run without nodes is of unknown outcome, and one failed node makes it fail. -/
def status (r : RunResults) : RunStatus :=
  if r.results.isEmpty then .unknown
  else if r.results.any fun n => NodeFailed n then .error
  else .success

/-- The status that a file tells; none stands for a missing file.  A file that cannot be read tells
nothing. -/
def statusOfFile (file : Option (List UInt8)) : RunStatus :=
  match file with
  | none => .unknown
  | some bytes =>
    match decodeUtf8 bytes with
    | .error _ => .unknown
    | .ok document =>
      match ofJson? document with
      | some r => r.status
      | none => .unknown

end RunResults

end WarehouseAccess
