import WarehouseAccess.Json.Basic
/-!
# Fields of documents

Documents may leave out what they do not need.  A missing field and null mean the same, and a field
of the wrong type counts as missing.
-/

namespace WarehouseAccess

namespace Json

/-- The value of a field. -/
def field? (j : Json) (key : String) : Option Json :=
  match j.get? key with
  | some .null => none
  | v => v

/-- The value of a field, null when it is missing. -/
def field (j : Json) (key : String) : Json := (j.field? key).getD .null

/-- The text of a field. -/
def text? (j : Json) (key : String) : Option String := (j.field? key).bind asText

/-- The text of a field, empty when it is missing. -/
def str (j : Json) (key : String) : String := (j.text? key).getD ""

/-- The integer of a field. -/
def int? (j : Json) (key : String) : Option Int :=
  match j.field? key with
  | some (.int n) => some n
  | _ => none

/-- The number of a field, zero when it is missing. -/
def nat (j : Json) (key : String) : Nat := ((j.int? key).map Int.toNat).getD 0

/-- The flag of a field, which is not set when it is missing. -/
def flag (j : Json) (key : String) : Bool :=
  match j.field? key with
  | some (.bool b) => b
  | _ => false

/-- The items of a field, none when it is missing. -/
def items (j : Json) (key : String) : List Json := ((j.field? key).bind asArray).getD []

/-- The keys of an object. -/
def keys : Json → List String
  | .object entries => entries.map Prod.fst
  | _ => []

/-- A text, or null for none. -/
def ofText? : Option String → Json
  | some s => .text s
  | none => .null

/-- A number. -/
def ofNat (n : Nat) : Json := .int n

end Json

end WarehouseAccess
