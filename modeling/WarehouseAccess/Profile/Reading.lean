import WarehouseAccess.Json.Basic
import WarehouseAccess.Profile.Basic
import WarehouseAccess.Toml.Document
/-!
# Reading a profile from entries

A document gives a profile as entries in some order, each under one of the names of its field.  An
entry under any other name is passed over; a field given twice is a fault, whatever names it was
given under; a field not given has its default.  The first fault in the order of the entries
decides, and a missing field is noticed last.

`Datum` is what this needs to know of a value, whichever format it comes from.
-/

namespace WarehouseAccess

/-- A value of a document as far as a profile's fields look into it. -/
inductive Datum where
  | null
  | boolean (b : Bool)
  | integer (n : Int)
  | float (x : Binary64)
  | text (s : String)
  | sequence
  /-- The keys of a table, and whether the value of each is one without content. -/
  | group (entries : List (String × Bool))
deriving Repr

namespace Datum

/-- What is said of a value that is out of place. -/
def found : Datum → FoundValue
  | null => .null
  | boolean b => .boolean b
  | integer n => .integer n
  | float x => .float x
  | text s => .text s
  | sequence => .sequence
  | group _ => .map

/-- A value of a JSON text; only null is without content. -/
def ofJson : Json → Datum
  | .null => null
  | .bool b => boolean b
  | .int n => integer n
  | .float x => float x
  | .text s => text s
  | .array _ => sequence
  | .object entries =>
    group (entries.map fun (k, v) => (k, match v with | .null => true | _ => false))

/-- A value of a TOML document; empty tables and empty arrays are without content. -/
def ofToml : Toml → Datum
  | .text s => text s
  | .integer n => integer n
  | .float x => float x
  | .boolean b => boolean b
  | .moment _ => group []
  | .array _ => sequence
  | .table entries => group (entries.map fun (k, v) =>
      (k, match v with | .table [] => true | .array [] => true | _ => false))

/-- A text. -/
def readText (d : Datum) : Except ReadFault String :=
  match d with
  | text s => .ok s
  | d => .error (.wrongType d.found "a string")

/-- An integer in a range. -/
def readInteger (lo hi : Int) (expected : String) (d : Datum) : Except ReadFault Int :=
  match d with
  | integer n => if lo ≤ n && n ≤ hi then .ok n else .error (.outOfRange n expected)
  | d => .error (.wrongType d.found expected)

/-- A preference by its name.  Besides a text, a table of one entry without content names it. -/
def readPreference (d : Datum) : Except ReadFault DriverPreference :=
  let ofName (s : String) : Except ReadFault DriverPreference :=
    match DriverPreference.ofText? s with
    | some p => .ok p
    | none => .error (.unknownVariant s (DriverPreference.all.map DriverPreference.text))
  match d with
  | text s => ofName s
  | group [(s, isEmpty)] =>
    match ofName s with
    | .ok p => if isEmpty then .ok p else .error .malformedChoice
    | .error e => .error e
  | _ => .error .malformedChoice

/-- An authentication mode by its spelling. -/
def readAuthentication (d : Datum) : Except ReadFault AuthenticationMode :=
  match d.readText with
  | .error e => .error e
  | .ok s =>
    match AuthenticationMode.ofText? s with
    | some mode => .ok mode
    | none => .error (.refused (.unsupportedAuthentication (trim s)))

/-- A value of the type of a kind of fields. -/
def read (kind : FieldKind) (d : Datum) : Except ReadFault kind.Value :=
  match kind with
  | .text => d.readText
  | .optionalText =>
    match d with
    | null => .ok none
    | d => d.readText.map some
  | .flag =>
    match d with
    | boolean b => .ok b
    | d => .error (.wrongType d.found "a boolean")
  | .word32 => (d.readInteger 0 0xFFFFFFFF "u32").map fun n => n.toNat.toUInt32
  | .word64 => (d.readInteger 0 0xFFFFFFFFFFFFFFFF "u64").map fun n => n.toNat.toUInt64
  | .optionalInteger =>
    match d with
    | null => .ok none
    | d =>
      (d.readInteger (-0x8000000000000000) 0x7FFFFFFFFFFFFFFF "i64").map fun n =>
        some (Int64.ofInt n)
  | .authentication => d.readAuthentication
  | .driverPreference => d.readPreference

end Datum

/-- The fields of a profile that were given so far. -/
def ProfileDraft : Type := (f : ProfileField) → Option f.kind.Value

namespace ProfileDraft

/-- Nothing was given. -/
def empty : ProfileDraft := fun _ => none

/-- Gives a field. -/
def set (draft : ProfileDraft) (f : ProfileField) (value : f.kind.Value) : ProfileDraft :=
  fun g => if h : f = g then some (h ▸ value) else draft g

/-- A field that was given has the value it was given. -/
theorem set_self (draft : ProfileDraft) (f : ProfileField) (value : f.kind.Value) :
    draft.set f value f = some value := by
  simp [set]

/-- Giving a field leaves all others as they are. -/
theorem set_other (draft : ProfileDraft) {f g : ProfileField} (value : f.kind.Value) (h : f ≠ g) :
    draft.set f value g = draft g := by
  simp [set, h]

/-- Takes up one entry. -/
def addEntry (draft : ProfileDraft) (key : String) (d : Datum) : Except ReadFault ProfileDraft :=
  match ProfileField.ofName? key with
  | none => .ok draft
  | some f =>
    if (draft f).isSome then .error (.duplicateField f.name)
    else (d.read f.kind).map fun value => draft.set f value

/-- Takes up entries in order. -/
def addEntries (draft : ProfileDraft) : List (String × Datum) → Except ReadFault ProfileDraft
  | [] => .ok draft
  | (key, d) :: rest =>
    match draft.addEntry key d with
    | .ok draft => addEntries draft rest
    | .error e => .error e

/-- Takes up values in the order of the fields; there are no more values than fields. -/
def addItems (draft : ProfileDraft) : List ProfileField → List Datum → Except ReadFault ProfileDraft
  | _, [] => .ok draft
  | [], _ :: _ => .error .malformedChoice
  | f :: fields, d :: rest =>
    match d.read f.kind with
    | .ok value => addItems (draft.set f value) fields rest
    | .error e => .error e

/-- A value that has to be given. -/
def require {α : Type} (name : String) : Option α → Except ReadFault α
  | some a => .ok a
  | none => .error (.missingField name)

/-- The profile with the given fields and the defaults of all others. -/
def toProfile (draft : ProfileDraft) : Except ReadFault Profile := do
  let host : String ← require "host" (draft .host)
  let database : String ← require "database" (draft .database)
  let schema : String ← require "schema" (draft .schema)
  let base := Profile.new host database schema
  return {
    host, database, schema
    driverBackend := (draft .driverBackend).getD base.driverBackend
    driver := (draft .driver).getD base.driver
    uid := (draft .uid).getD base.uid
    pwd := (draft .pwd).getD base.pwd
    windowsLogin := (draft .windowsLogin).getD base.windowsLogin
    traceFlag := (draft .traceFlag).getD base.traceFlag
    tenantId := (draft .tenantId).getD base.tenantId
    clientId := (draft .clientId).getD base.clientId
    clientSecret := (draft .clientSecret).getD base.clientSecret
    accessToken := (draft .accessToken).getD base.accessToken
    accessTokenExpiresOn := (draft .accessTokenExpiresOn).getD base.accessTokenExpiresOn
    authentication := (draft .authentication).getD base.authentication
    encrypt := (draft .encrypt).getD base.encrypt
    trustCert := (draft .trustCert).getD base.trustCert
    retries := (draft .retries).getD base.retries
    schemaAuthorization := (draft .schemaAuthorization).getD base.schemaAuthorization
    loginTimeout := (draft .loginTimeout).getD base.loginTimeout
    queryTimeout := (draft .queryTimeout).getD base.queryTimeout
    workspaceId := (draft .workspaceId).getD base.workspaceId
    warehouseSnapshotName := (draft .warehouseSnapshotName).getD base.warehouseSnapshotName
    warehouseSnapshotId := (draft .warehouseSnapshotId).getD base.warehouseSnapshotId
    snapshotTimestamp := (draft .snapshotTimestamp).getD base.snapshotTimestamp
    apiUrl := (draft .apiUrl).getD base.apiUrl
    pooling := (draft .pooling).getD base.pooling
    tokenRefreshMarginSecs := (draft .tokenRefreshMarginSecs).getD base.tokenRefreshMarginSecs
    snapshotPollMaxRetries := (draft .snapshotPollMaxRetries).getD base.snapshotPollMaxRetries
    snapshotPollDelaySecs := (draft .snapshotPollDelaySecs).getD base.snapshotPollDelaySecs }

end ProfileDraft

namespace Profile

/-- The profile that entries give. -/
def ofEntries (entries : List (String × Datum)) : Except ReadFault Profile :=
  match ProfileDraft.empty.addEntries entries with
  | .ok draft => draft.toProfile
  | .error e => .error e

/-- The profile that a JSON value gives: an object, or an array with the fields in order. -/
def ofJson : Json → Except ReadFault Profile
  | .object entries => ofEntries (entries.map fun (k, v) => (k, Datum.ofJson v))
  | .array items =>
    match ProfileDraft.empty.addItems ProfileField.all (items.map Datum.ofJson) with
    | .ok draft => draft.toProfile
    | .error e => .error e
  | j => .error (.wrongType (Datum.ofJson j).found "a profile")

end Profile

end WarehouseAccess
