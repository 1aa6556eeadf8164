import WarehouseAccess.Connection.Error
import WarehouseAccess.ControlPlane.Client
import WarehouseAccess.RunResults
/-!
# The life of a run

The first connection that is opened during certain commands makes the warehouse's snapshot current.
When that succeeds a hook is kept; at the end of the run the host calls `finish`, which brings the
snapshot up to date once more if the run succeeded.

None of this makes a connection fail: errors end here.
-/

namespace WarehouseAccess

/-- A client and the service on the other side of it. -/
structure ControlPlaneLink (τ : Type) where
  client : ControlPlaneClient
  peer : Exchange.Peer τ

/-- How a run reaches the control plane of a workspace, given the world `σ` that tokens come from
and the service's own state `τ`. -/
structure ControlPlaneConnector (σ τ : Type) where
  connect : Profile → (workspaceId : String) → σ → τ →
    Except ConnectionError (ControlPlaneLink τ) × σ × τ

/-- What is left to do at the end of a run. -/
structure PostRunHook (τ : Type) where
  link : ControlPlaneLink τ
  /-- The snapshot that was made current at the start. -/
  record : Option SnapshotRecord

/-- The commands that make the snapshot current; a name counts only as a whole. -/
def targetCommands : List String := ["run", "build", "snapshot"]

/-- The state of a run, shared by all managers. -/
structure RunLifecycle (τ : Type) where
  command : Option String
  /-- The state of the control plane. -/
  service : τ
  started : Bool := false
  hook : Option (PostRunHook τ) := none
  /-- What went to the control plane so far. -/
  events : List Exchange.Event := []

namespace RunLifecycle

variable {σ τ : Type}

/-- The command is one of those that make the snapshot current. -/
def shouldRun (l : RunLifecycle τ) : Bool := l.command.any targetCommands.contains

/-- Carries out an inquiry. -/
def perform {α : Type} (l : RunLifecycle τ) (peer : Exchange.Peer τ) (inquiry : Inquiry α) :
    Except ControlPlaneError α × RunLifecycle τ :=
  let (outcome, events, service) := Exchange.run peer inquiry.run l.service
  (outcome, { l with service, events := l.events ++ events })

/-- Makes the snapshot current over a link, and keeps a hook unless that fails.  A profile that
names no snapshot gets a hook without a record. -/
def begin (l : RunLifecycle τ) (link : ControlPlaneLink τ) (p : Profile) : RunLifecycle τ :=
  match p.warehouseSnapshotName with
  | none => { l with hook := some ⟨link, none⟩ }
  | some name =>
    match l.perform link.peer (link.client.orchestrate p.database name) with
    | (.ok record, l) => { l with hook := some ⟨link, some record⟩ }
    | (.error _, l) => l

/-- Reaches the control plane and begins; without a workspace nothing is done. -/
def reach (l : RunLifecycle τ) (connector : ControlPlaneConnector σ τ) (p : Profile) (w : σ) :
    RunLifecycle τ × σ :=
  match p.workspaceId with
  | none => (l, w)
  | some workspaceId =>
    match connector.connect p workspaceId w l.service with
    | (.error _, w, service) => ({ l with service }, w)
    | (.ok link, w, service) => (begin { l with service } link p, w)

/-- Makes the snapshot current when the command asks for it.  This is done at most once in a run,
whether or not it succeeds. -/
def startOnce (l : RunLifecycle τ) (connector : ControlPlaneConnector σ τ) (p : Profile) (w : σ) :
    RunLifecycle τ × σ :=
  if l.shouldRun && !l.started then reach { l with started := true } connector p w else (l, w)

/-- Hands out the hook, which is gone afterwards. -/
def takeHook (l : RunLifecycle τ) : Option (PostRunHook τ) × RunLifecycle τ :=
  (l.hook, { l with hook := none })

/-- Brings the recorded snapshot up to date if the results of the run tell of success. -/
def runHook (l : RunLifecycle τ) (hook : PostRunHook τ) (results : Option (List UInt8)) :
    Option SnapshotRecord × RunLifecycle τ :=
  match hook.record with
  | none => (none, l)
  | some record =>
    if RunResults.statusOfFile results = .success then
      match l.perform hook.link.peer (hook.link.client.refresh record) with
      | (.ok updated, l) => (updated, l)
      | (.error _, l) => (none, l)
    else (none, l)

/-- Ends the run, given the file of its results; the refreshed snapshot, if there is one. -/
def finish (l : RunLifecycle τ) (results : Option (List UInt8)) :
    Option SnapshotRecord × RunLifecycle τ :=
  match l.takeHook with
  | (none, l) => (none, l)
  | (some hook, l) => l.runHook hook results

/-- The description of a run. -/
def describe (l : RunLifecycle τ) : String :=
  let command := match l.command with
    | none => "None"
    | some c => "Some(" ++ quoted c ++ ")"
  "RunLifecycle \x7b command: " ++ command ++ ", started: " ++ Profile.flagText l.started ++ " \x7d"

end RunLifecycle

end WarehouseAccess
