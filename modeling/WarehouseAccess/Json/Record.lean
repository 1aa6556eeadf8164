import WarehouseAccess.Json.Syntax
/-!
# Records in JSON texts

Looking up a few named fields in a JSON text.  A record is an object, in which every field occurs at
most once and other keys are passed over, or an array with the fields in order.  What is passed over
has to be well-formed and nothing more.
-/

namespace WarehouseAccess

namespace JsonSyntax

/-- Every key is a text. -/
def keysAreTexts (entries : List (Option String × JsonSyntax)) : Bool :=
  entries.all fun e => e.1.isSome

/-- The value under a key that occurs at most once. -/
def uniqueEntry (name : String) (entries : List (Option String × JsonSyntax)) :
    Option (Option JsonSyntax) :=
  match entries.filter fun e => e.1 == some name with
  | [] => some none
  | [e] => some (some e.2)
  | _ => none

/-- The values of the named fields of a record, each of which may be absent. -/
def record (names : List String) : JsonSyntax → Option (List (Option JsonSyntax))
  | .object entries =>
    if keysAreTexts entries then names.mapM fun name => uniqueEntry name entries else none
  | .array items =>
    if items.length ≤ names.length then
      some (items.map some ++ List.replicate (names.length - items.length) none)
    else none
  | _ => none

/-- A text. -/
def asText : JsonSyntax → Option String
  | .text s => s
  | _ => none

/-- A text or null. -/
def asTextOrNull : JsonSyntax → Option (Option String)
  | .null => some none
  | v => v.asText.map some

/-- An integer in a range. -/
def asInteger (lo hi : Int) : JsonSyntax → Option Int
  | .number n =>
    match n.toJson? with
    | some (.int n) => if lo ≤ n && n ≤ hi then some n else none
    | _ => none
  | _ => none

/-- An integer in a range, or null. -/
def asIntegerOrNull (lo hi : Int) : JsonSyntax → Option (Option Int)
  | .null => some none
  | v => (v.asInteger lo hi).map some

/-- The field of a record, read if it is given and a default otherwise. -/
def fieldOr {α : Type} (default : α) (read : JsonSyntax → Option α) :
    Option JsonSyntax → Option α
  | none => some default
  | some v => read v

end JsonSyntax

end WarehouseAccess
