import WarehouseAccess.Calendar.Zone
import WarehouseAccess.Http
import WarehouseAccess.Profile.Basic
import WarehouseAccess.Token.Basic
/-!
# Token providers

A provider is asked for a token of a scope on behalf of a profile.  What it does to find one happens
outside, in a world that a request may change; `TokenSystem` lists what the providers of this
library use of it.  A chain asks its providers in order and takes the first token it gets.

Notebooks and Spark sessions hand out tokens to what runs in them.  Each has a name of its own for
the database, so a request for the scope of the database is put in that name; every other scope is
passed on as it is.  A host does not say when its tokens expire.
-/

namespace WarehouseAccess

/-- A source of tokens, acting on a world `σ`. -/
structure TokenProvider (σ : Type) where
  name : String
  request : Profile → (scope : String) → σ → Except AuthError AccessToken × σ

/-- How a program went. -/
inductive ProgramRun where
  | notStarted (reason : String)
  /-- Whether it reports success, its output, and what it complained of. -/
  | ended (success : Bool) (output complaint : List UInt8)
deriving DecidableEq, Repr

/-- A form that is sent to a web service. -/
structure FormRequest where
  url : String
  fields : List (String × String)
  /-- Seconds to wait for the response. -/
  timeout : Option Nat
deriving DecidableEq, Repr

/-- What providers use of the system they run on. -/
structure TokenSystem (σ : Type) where
  now : σ → Int64 × σ
  zone : Zone
  /-- The variables of the environment. -/
  environment : String → Option String
  run : (program : String) → (arguments : List String) → σ → ProgramRun × σ
  send : FormRequest → σ → HttpReply × σ

namespace TokenProvider

/-- Asks providers in order until one has a token.  `failures` are the errors so far. -/
def requestFirst {σ : Type} (p : Profile) (scope : String) :
    (failures : List String) → List (TokenProvider σ) → σ → Except (List String) AccessToken × σ
  | failures, [], w => (.error failures, w)
  | failures, provider :: rest, w =>
    match provider.request p scope w with
    | (.ok token, w) => (.ok token, w)
    | (.error e, w) => requestFirst p scope (failures ++ [e.message]) rest w

/-- The name of a chain. -/
def chainName : String := "auto"

/-- The first token that one of the providers has. -/
def chain {σ : Type} (providers : List (TokenProvider σ)) : TokenProvider σ where
  name := chainName
  request p scope w :=
    let (outcome, w) := requestFirst p scope [] providers w
    (outcome.mapError fun failures => .provider chainName (.allFailed failures), w)

end TokenProvider

/-! ### Tokens of a host -/

/-- The hosts that hand out tokens. -/
inductive HostRuntime where
  | fabricNotebook
  | synapseSpark
deriving DecidableEq, Repr

namespace HostRuntime

/-- The name of a host. -/
def name : HostRuntime → String
  | fabricNotebook => "fabricnotebook"
  | synapseSpark => "synapsespark"

/-- What a host calls the database. -/
def databaseResource : HostRuntime → String
  | fabricNotebook => "https://database.windows.net/"
  | synapseSpark => "DW"

/-- What a host is asked for. -/
def resource (h : HostRuntime) (scope : String) : String :=
  if scope = databaseScope then h.databaseResource else scope

/-- Tokens that a host hands out, given how to ask it and how to read the clock. -/
def provider {σ : Type} (h : HostRuntime) (ask : String → σ → Except String String × σ)
    (now : σ → Int64 × σ) : TokenProvider σ where
  name := h.name
  request _ scope w :=
    match ask (h.resource scope) w with
    | (.error reason, w) => (.error (.provider h.name (.other reason)), w)
    | (.ok token, w) =>
      let (n, w) := now w
      (.ok (AccessToken.lasting token unstatedLifetime n), w)

end HostRuntime

end WarehouseAccess
