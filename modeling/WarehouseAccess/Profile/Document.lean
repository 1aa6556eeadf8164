import WarehouseAccess.Json.Fields
import WarehouseAccess.Profile.Reading
import WarehouseAccess.Toml.Reader
import WarehouseAccess.Toml.Printer
import WarehouseAccess.Text.Utf8
/-!
# Profile documents

A profile is kept in a TOML document.  Loading it checks it; saving writes one line per field in
the order of the fields and leaves out what is absent.  In JSON a profile shows all of its fields.
-/

namespace WarehouseAccess

namespace Profile

/-- The checked profile of a document. -/
def ofToml (document : String) : Except ProfileError Profile :=
  match Toml.parse document with
  | none => .error (.unreadable .grammar)
  | some entries =>
    match ofEntries (entries.map fun (k, v) => (k, Datum.ofToml v)) with
    | .error fault => .error (.unreadable fault)
    | .ok p => p.validated

/-- What a file is found to hold. -/
inductive FileContent where
  | missing
  | bytes (content : List UInt8)

/-- The text of a file. -/
def FileContent.text : FileContent → Except String String
  | missing => .error "No such file or directory (os error 2)"
  | bytes content =>
    match decodeUtf8 content with
    | .ok s => .ok s
    | .error _ => .error "stream did not contain valid UTF-8"

/-- The checked profile of a file. -/
def ofFile (file : FileContent) : Except ProfileError Profile :=
  match file.text with
  | .error reason => .error (.file reason)
  | .ok document => ofToml document

/-- The written value of a field: nothing when it is absent, and none when it is too large for a
document. -/
def writeValue : (kind : FieldKind) → kind.Value → Option (Option (List Char))
  | .text, s => some (some (TomlPrinter.renderText s))
  | .optionalText, s => some (s.map TomlPrinter.renderText)
  | .flag, b => some (some (flagText b).toList)
  | .word32, n => some (some (decimalDigits n.toNat))
  | .word64, n =>
    if n.toNat < 0x8000000000000000 then some (some (decimalDigits n.toNat)) else none
  | .optionalInteger, n => some (n.map fun n => (toString n.toInt).toList)
  | .authentication, mode => some (some (TomlPrinter.renderText mode.text))
  | .driverPreference, p => some (some (TomlPrinter.renderText p.text))

/-- The lines of the given fields. -/
def writeFields (p : Profile) : List ProfileField → Option (List Char)
  | [] => some []
  | f :: rest =>
    match writeValue f.kind (p.get f), writeFields p rest with
    | some (some value), some lines => some (TomlPrinter.line f.name value ++ lines)
    | some none, some lines => some lines
    | _, _ => none

/-- The document that keeps a profile. -/
def toToml (p : Profile) : Except ProfileError String :=
  match p.writeFields ProfileField.all with
  | some lines => .ok (String.ofList lines)
  | none => .error .unwritable

/-- A value as JSON. -/
def valueToJson : (kind : FieldKind) → kind.Value → Json
  | .text, s => .text s
  | .optionalText, s => .ofText? s
  | .flag, b => .bool b
  | .word32, n => .ofNat n.toNat
  | .word64, n => .ofNat n.toNat
  | .optionalInteger, n => (n.map fun n => Json.int n.toInt).getD .null
  | .authentication, mode => .text mode.text
  | .driverPreference, p => .text p.text

/-- All fields of a profile. -/
def toJson (p : Profile) : Json :=
  .ofEntries (ProfileField.all.map fun f => (f.name, valueToJson f.kind (p.get f)))

end Profile

end WarehouseAccess
