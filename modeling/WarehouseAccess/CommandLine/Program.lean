import WarehouseAccess.CommandLine.Invocation
import WarehouseAccess.Connection.Manager
import WarehouseAccess.ControlPlane.Script
import WarehouseAccess.Json.Basic
import WarehouseAccess.Profile.Document
/-!
# Commands

What the program prints for each command and how it ends.  Each command needs one file, which is
read beforehand; `Host` is what else it uses.  A command ends with exit code 0, or with code 1 and
an error that names its cause; a command line that cannot be read ends with code 2.

The summary of a profile shows how it would connect: its settings without secrets, the backend, and
the connection string with its secret masked.
-/

namespace WarehouseAccess

/-! ### The summary of a profile -/

namespace Summary

/-- The line above and below a heading. -/
def bar : String := String.ofList (List.replicate 60 '=')

/-- A name in a column of twenty-four characters, and what belongs to it. -/
def row (name value : String) : String :=
  "  " ++ name ++ String.ofList (List.replicate (24 - name.length) ' ') ++ " " ++ value

/-- The backend of a preference, without a look at the drivers. -/
def backendOf : DriverPreference → Backend
  | .odbc => .odbc
  | .native => .native
  | .auto => .native

/-- The connection string as it may be shown, or why there is none. -/
def connectionText (p : Profile) (b : Backend) : String :=
  let m : ConnectionManager := { profile := p }
  match m.connectionString b with
  | .ok text => maskSecret text (loginFields p).2
  | .error e => e.message

/-- The lines for a profile, given the preference that holds and the backend that was asked for. -/
def lines (p : Profile) (preference : DriverPreference) (asked : Option Backend) : List String :=
  let b := asked.getD (backendOf preference)
  ["", bar, "Connection Settings", bar, "", row "type" Profile.typeName] ++
    Profile.connectionKeys.map (fun key => row key ((p.connectionValue key).getD "-")) ++
    ["",
      row "driver_backend" (preference.text ++ " (configured: " ++ p.driverBackend.text ++ ")"),
      row "backend" b.text,
      row "connection_string" (connectionText p b),
      "", bar]

end Summary

/-! ### The end of a command -/

/-- How the program ends. -/
structure ProgramEnd where
  exitCode : Nat
  /-- The lines of the output. -/
  output : List String := []
  /-- The lines beside the output: reports and errors. -/
  notes : List String := []
deriving DecidableEq, Repr

/-- An error, and what caused it. -/
structure Failure where
  message : String
  cause : Option String := none
deriving DecidableEq, Repr

/-- The lines of an error. -/
def Failure.lines (f : Failure) : List String :=
  ("Error: " ++ f.message) ::
    match f.cause with
    | none => []
    | some cause =>
      "" :: "Caused by:" :: (cause.splitOn "\n").map fun line => "    " ++ line

/-- How the program ends after an error. -/
def Failure.programEnd (f : Failure) : ProgramEnd where
  exitCode := 1
  notes := f.lines

/-- What commands use besides their file: what the environment says about the backend, who provides
tokens, and the control plane. -/
structure Host (σ τ : Type) where
  override : Option String
  authority : TokenAuthority σ
  peer : Exchange.Peer τ

namespace Invocation

/-- The profile that is read unless another is named. -/
def defaultProfileFile : String := "fabriclink.toml"

/-- The profile that is read. -/
def profileFile (i : Invocation) : String := i.profile.getD defaultProfileFile

/-- The file that an invocation needs. -/
def file (i : Invocation) : String :=
  match i.command with
  | .runStatus file => file
  | _ => i.profileFile

/-- The notes of someone who wants to be told more. -/
def remark (i : Invocation) (line : String) : List String := if i.verbose then [line] else []

/-- The profile in the file. -/
def loadProfile (i : Invocation) (content : Profile.FileContent) : Except Failure Profile :=
  (Profile.ofFile content).mapError fun e =>
    ⟨"Failed to load profile " ++ i.profileFile, some e.message⟩

/-- Shows how a profile would connect. -/
def showProfile (p : Profile) (asked : Option Backend) (override : Option String) : ProgramEnd :=
  match p.driverBackend.effective override with
  | .error why => (Failure.mk (BackendError.invalidPreference why).message none).programEnd
  | .ok preference => { exitCode := 0, output := Summary.lines p preference asked }

/-- The text of a snapshot that was made or brought up to date. -/
def snapshotText (r : SnapshotRecord) : String :=
  String.ofList <| Json.indented 0 <| .object
    [("snapshotId", .ofText? r.snapshotId), ("displayName", .ofText? r.displayName),
      ("warehouseId", .ofText? r.warehouseId), ("operationType", .text r.change.text),
      ("operation", r.operation)]

/-- What a snapshot is made of: its workspace, warehouse and name. -/
def snapshotTarget (p : Profile) (warehouse name : Option String) :
    Except Failure (String × String × String) :=
  match p.workspaceId, name.or p.warehouseSnapshotName with
  | none, _ => .error ⟨"workspace_id must be set to manage warehouse snapshots", none⟩
  | _, none =>
    .error ⟨"no snapshot name given and warehouse_snapshot_name is not set", none⟩
  | some workspaceId, some name => .ok (workspaceId, warehouse.getD p.database, name)

variable {σ τ : Type}

/-- Makes a snapshot current; the outcome and what went to the control plane. -/
def makeCurrent (host : Host σ τ) (p : Profile) (workspaceId warehouse name : String) (w : σ)
    (service : τ) : Except Failure SnapshotRecord × List Exchange.Event :=
  match host.authority.controlPlaneToken p w with
  | (.error e, _) => (.error ⟨e.message, none⟩, [])
  | (.ok _, _) =>
    let client := ControlPlaneClient.ofProfile p workspaceId
    let (outcome, events, _) :=
      Exchange.run host.peer (client.orchestrate warehouse name).run service
    (outcome.mapError fun e => ⟨e.message, none⟩, events)

/-- Makes the snapshot of a profile current and prints it. -/
def snapshot (i : Invocation) (host : Host σ τ) (p : Profile) (warehouse name : Option String)
    (w : σ) (service : τ) : ProgramEnd :=
  match snapshotTarget p warehouse name with
  | .error f => f.programEnd
  | .ok (workspaceId, warehouse, name) =>
    let begun := i.remark
      ("Managing snapshot " ++ warehouse ++ " / " ++ name ++ " in workspace " ++ workspaceId)
    match makeCurrent host p workspaceId warehouse name w service with
    | (.error f, _) => { exitCode := 1, notes := begun ++ f.lines }
    | (.ok r, _) =>
      { exitCode := 0
        output := [snapshotText r]
        notes := begun ++
          ["✓ Snapshot " ++ r.snapshotId.getD "<pending>" ++ " (" ++ r.change.text ++ ")"] }

/-- Loads the profile and goes on with it. -/
def withProfile (i : Invocation) (content : Profile.FileContent) (next : Profile → ProgramEnd) :
    ProgramEnd :=
  let ended : ProgramEnd := match i.loadProfile content with
    | .error f => f.programEnd
    | .ok p => next p
  { ended with notes := i.remark ("Loading profile from: " ++ i.profileFile) ++ ended.notes }

/-- Tells how a run ended. -/
def showRunStatus (file : String) (content : Profile.FileContent) : ProgramEnd :=
  let results := match content with
    | .missing => none
    | .bytes b => some b
  { exitCode := 0, output := [file ++ ": " ++ (RunResults.statusOfFile results).text] }

/-- Carries out an invocation, given what its file holds. -/
def perform (i : Invocation) (host : Host σ τ) (content : Profile.FileContent) (w : σ)
    (service : τ) : ProgramEnd :=
  match i.command with
  | .runStatus file => showRunStatus file content
  | .debug asked => i.withProfile content fun p => showProfile p asked host.override
  | .snapshot warehouse name => i.withProfile content fun p =>
    i.snapshot host p warehouse name w service

end Invocation

/-- The text that explains the command line. -/
def usage : List String :=
  ["warehouse connectivity checks", "",
    "Usage: fabriclink [OPTIONS] <COMMAND>", "",
    "Commands:",
    "  debug       Show connection settings and the masked connection string",
    "  snapshot    Create or update the profile's warehouse snapshot",
    "  run-status  Summarize a run-results artifact",
    "  help        Print this message", "",
    "Options:",
    "  -p, --profile <PROFILE>  Path to the connection profile (default: fabriclink.toml)",
    "  -v, --verbose            Enable verbose output",
    "  -h, --help               Print help",
    "  -V, --version            Print version"]

/-- How the program ends when a command line cannot be read. -/
def UsageError.programEnd (e : UsageError) : ProgramEnd where
  exitCode := 2
  notes := ["error: " ++ e.message, "", "For more information, try '--help'."]

end WarehouseAccess
