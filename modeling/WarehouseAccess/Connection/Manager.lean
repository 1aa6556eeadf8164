import WarehouseAccess.Connection.Basic
import WarehouseAccess.Connection.Query
import WarehouseAccess.Connection.Session
import WarehouseAccess.Text.Editing
/-!
# Connection managers

A manager opens connections for one profile and runs statements on them.  Opening is tried again
after errors that are worth it, with a new look at the token each time.  Every statement runs behind
one boundary that decides what an error does to the connection:

* an error of the database closes the connection and becomes a `Database Error`;
* another driver error is passed on, and the connection stays as it is;
* everything else rolls back and closes, and becomes a `Runtime Error` unless it is an error of this
  boundary already.
-/

namespace WarehouseAccess

/-- The name of the application that the warehouse is told unless another is set. -/
def defaultApplicationName : String := "fabriclink/0.1.0"

/-- User and secret that are sent for the authentication mode of a profile. -/
def loginFields (p : Profile) : Option String × Option String :=
  match p.authentication with
  | .activeDirectoryPassword => (p.uid, p.pwd)
  | .activeDirectoryServicePrincipal => (p.clientId, p.clientSecret)
  | .activeDirectoryInteractive => (p.uid, none)
  | _ => (none, none)

/-- A statement's cursor, and the backend whose driver it belongs to. -/
structure QueryCursor where
  backend : Backend
  cursor : Cursor
deriving DecidableEq, Repr

/-- Opens connections for a profile and runs statements on them. -/
structure ConnectionManager where
  profile : Profile
  applicationName : String := defaultApplicationName
deriving DecidableEq, Repr

namespace ConnectionManager

variable {σ τ : Type}

/-- The connection string for a backend. -/
def connectionString (m : ConnectionManager) (b : Backend) : Except DriverError String :=
  let (uid, pwd) := loginFields m.profile
  b.connectionString (.ofProfile m.profile m.applicationName uid pwd)

/-- The connection string as it may be shown. -/
def displayConnectionString (m : ConnectionManager) (s : Session σ τ) :
    Except ConnectionError String × Session σ τ :=
  match s.backendFor m.profile with
  | (.error e, s) => (.error e, s)
  | (.ok b, s) =>
    match m.connectionString b with
    | .error e => (.error (.driver e), s)
    | .ok text => (.ok (maskSecret text (loginFields m.profile).2), s)

/-- How often a statement is tried. -/
def queryLimit (m : ConnectionManager) : Nat := queryAttempts m.profile.retries.toNat

/-! ### Opening -/

/-- The error when there is no driver to connect with. -/
def noDriver : DriverError := ⟨.interface, "driver is not installed"⟩

/-- Tries once to connect. -/
def attempt (m : ConnectionManager) (services : Services σ τ) (b : Backend) (text : String)
    (s : Session σ τ) : Except ConnectionError Unit × Session σ τ :=
  match services.authority.preAuthAttributes m.profile b s.tokens s.world with
  | (.error e, tokens, world) => (.error (.auth e), { s with tokens, world })
  | (.ok attributes, tokens, world) =>
    let s := { s with tokens, world }
    match s.act b (.error noDriver) fun d =>
        d.connect text m.profile.loginTimeout.toNat true (b.attributes attributes) with
    | (.error e, s) => (.error (.driver e), s)
    | (.ok (), s) => (.ok (), s)

/-- Connects, and sets how long queries may take. -/
def connect (m : ConnectionManager) (services : Services σ τ) (s : Session σ τ) :
    Except ConnectionError ConnectionHandle × Session σ τ :=
  match s.backendFor m.profile with
  | (.error e, s) => (.error e, s)
  | (.ok b, s) =>
    match m.connectionString b with
    | .error e => (.error (.driver e), s)
    | .ok text =>
      match (RetryPolicy.new m.profile.retries.toNat retryInterval).run
          (ConnectionError.isRetryable b) Session.pause
          (fun _ => m.attempt services b text) s with
      | (.error e, s) => (.error e, s)
      | (.ok (), s) =>
        let timeout := m.profile.queryTimeout.toNat
        let ((), s) := s.act b () fun d => ((), d.setQueryTimeout timeout)
        (.ok ⟨b, timeout⟩, s)

/-- Opens a connection; nothing is done for one that is open already. -/
def openConnection (m : ConnectionManager) (services : Services σ τ) (c : Connection)
    (s : Session σ τ) : Except ConnectionError Unit × Connection × Session σ τ :=
  if c.isOpen then (.ok (), c, s)
  else
    let c := { c with state := .opening }
    match m.connect services s with
    | (.error e, s) => (.error e, { c with state := .failed }, s)
    | (.ok handle, s) => (.ok (), c.attach handle, s.startLifecycle services m.profile)

/-! ### Closing, and the boundary around statements -/

/-- Rolls a connection back, if that is possible, and closes it. -/
def release (c : Connection) (ds : Drivers) :
    Except ConnectionError Unit × Connection × Drivers :=
  let (_, ds) := c.rollback ds
  let (outcome, c, ds) := c.release ds
  (outcome.mapError .driver, c, ds)

/-- What an error of a statement becomes, and what it does to the connection. -/
def settle (e : ConnectionError) (c : Connection) (ds : Drivers) :
    ConnectionError × Connection × Drivers :=
  match e with
  | .driver d =>
    if d.isDatabase then
      let (_, c, ds) := c.release ds
      (.database (trim d.message), c, ds)
    else (.driver d, c, ds)
  | e =>
    let (_, c, ds) := release c ds
    (if e.isInternal then e else .runtime e.message, c, ds)

/-- Runs an action on a connection behind the boundary. -/
def withBoundary {α : Type} (m : ConnectionManager) (c : Connection) (s : Session σ τ)
    (action : Backend → Connection → Session σ τ →
      Except ConnectionError α × Connection × Session σ τ) :
    Except ConnectionError α × Connection × Session σ τ :=
  match s.backendFor m.profile with
  | (.error e, s) => (.error e, c, s)
  | (.ok b, s) =>
    match action b c s with
    | (.ok value, c, s) => (.ok value, c, s)
    | (.error e, c, s) =>
      let (e, c, drivers) := settle e c s.drivers
      (.error e, c, { s with drivers })

/-! ### Statements -/

/-- Carries out a statement on a connection. -/
def runStatement (m : ConnectionManager) (sql : String) (bindings : Option (List SqlValue))
    (b : Backend) (c : Connection) (s : Session σ τ) :
    Except ConnectionError QueryCursor × Connection × Session σ τ :=
  match c.requireHandle with
  | .error e => (.error e, c, s)
  | .ok handle =>
    let ((outcome, pauses), s) := s.act handle.backend (.error noDriver, []) fun d =>
      let (outcome, d, pauses) := d.executeWithRetry b m.queryLimit sql bindings
      ((outcome, pauses), d)
    let s := { s with pauses := s.pauses ++ pauses }
    match outcome with
    | .error e => (.error (.driver e), c, s)
    | .ok cursor => (.ok ⟨handle.backend, cursor⟩, c, s)

/-- Carries out a statement; its cursor stands at the first result. -/
def addQuery (m : ConnectionManager) (c : Connection) (sql : String)
    (bindings : Option (List SqlValue)) (s : Session σ τ) :
    Except ConnectionError QueryCursor × Connection × Session σ τ :=
  m.withBoundary c s (m.runStatement sql bindings)

/-- What a statement returned. -/
def collect (q : QueryCursor) (fetch : Bool) (limit : Option Nat) (_ : Backend) (c : Connection)
    (s : Session σ τ) :
    Except ConnectionError (StatementResponse × List Row) × Connection × Session σ τ :=
  let (outcome, s) := s.act q.backend (.error noDriver) fun d =>
    let (outcome, _, d) := d.collectResults q.cursor fetch limit
    (outcome, d)
  (outcome.mapError .driver, c, s)

/-- Carries out a statement and collects what it returns. -/
def execute (m : ConnectionManager) (c : Connection) (sql : String) (fetch : Bool)
    (limit : Option Nat) (s : Session σ τ) :
    Except ConnectionError (StatementResponse × List Row) × Connection × Session σ τ :=
  match m.addQuery c sql none s with
  | (.error e, c, s) => (.error e, c, s)
  | (.ok q, c, s) => m.withBoundary c s (collect q fetch limit)

/-- The description of a manager in a session. -/
def describe (m : ConnectionManager) (s : Session σ τ) : String :=
  let lifecycle := match s.lifecycle with
    | none => "None"
    | some l => "Some(" ++ l.describe ++ ")"
  "ConnectionManager \x7b host: " ++ quoted m.profile.host ++ ", database: " ++
    quoted m.profile.database ++ ", application_name: " ++ quoted m.applicationName ++
    ", lifecycle: " ++ lifecycle ++ " \x7d"

end ConnectionManager

end WarehouseAccess
