import WarehouseAccess.Connection.Lifecycle
import WarehouseAccess.Token.Authority
/-!
# Sessions

What the managers of one process share: the drivers, the remembered choice of a backend, the
remembered token, and the life of the run.  A session also records the pauses that were made between
attempts.  `ControlPlaneConnector.signingIn` is the connector of a real run; hosts can bring one of
their own.
-/

namespace WarehouseAccess

/-- The connector that asks an authority for a token, and opens a way to the control plane with
it. -/
def ControlPlaneConnector.signingIn {σ τ : Type} (a : TokenAuthority σ)
    (transport : (token : String) → Except ControlPlaneError (Exchange.Peer τ)) :
    ControlPlaneConnector σ τ where
  connect p workspaceId w service :=
    match a.controlPlaneToken p w with
    | (.error e, w) => (.error (.auth e), w, service)
    | (.ok token, w) =>
      match transport token with
      | .error e => (.error (.controlPlane e), w, service)
      | .ok peer => (.ok ⟨.ofProfile p workspaceId, peer⟩, w, service)

/-- The services that a session relies on. -/
structure Services (σ τ : Type) where
  authority : TokenAuthority σ
  connector : ControlPlaneConnector σ τ

/-- What the managers of one process share. -/
structure Session (σ τ : Type) where
  drivers : Drivers
  /-- The world that tokens come from. -/
  world : σ
  resolver : ResolverCache := none
  /-- The pooling of connections is set only once. -/
  poolingSettled : Bool := false
  /-- What the environment says about the choice of a backend. -/
  override : Option String := none
  tokens : TokenCache := none
  pauses : List Duration := []
  lifecycle : Option (RunLifecycle τ) := none

/-- How many connections are pooled at most. -/
def poolSize : Nat := 100

namespace Session

variable {σ τ : Type}

/-- Makes a pause. -/
def pause (d : Duration) (s : Session σ τ) : Session σ τ := { s with pauses := s.pauses ++ [d] }

/-- Sets the pooling of a backend unless pooling was set before. -/
def settlePooling (s : Session σ τ) (b : Backend) (enabled : Bool) : Session σ τ :=
  if s.poolingSettled then s
  else
    { s with
      poolingSettled := true
      drivers := s.drivers.configurePooling b enabled poolSize }

/-- The backend for a profile. -/
def backendFor (s : Session σ τ) (p : Profile) : Except ConnectionError Backend × Session σ τ :=
  match s.resolver.resolveEffective s.drivers p.driverBackend s.override with
  | (.error e, resolver) => (.error (.backend e), { s with resolver })
  | (.ok b, resolver) => (.ok b, settlePooling { s with resolver } b p.pooling)

/-- Lets the life of the run begin with a profile. -/
def startLifecycle (s : Session σ τ) (services : Services σ τ) (p : Profile) : Session σ τ :=
  match s.lifecycle with
  | none => s
  | some l =>
    let (l, world) := l.startOnce services.connector p s.world
    { s with lifecycle := some l, world }

/-- Lets the driver of a backend act. -/
def act {α : Type} (s : Session σ τ) (b : Backend) (default : α)
    (f : ScriptedDriver → α × ScriptedDriver) : α × Session σ τ :=
  let (a, drivers) := s.drivers.act b default f
  (a, { s with drivers })

end Session

end WarehouseAccess
