import WarehouseAccess.Profile.Error
import WarehouseAccess.Text.Editing
import WarehouseAccess.Text.Lowercase
/-!
# Choices of a profile

Which driver a profile wants, with how a setting of the environment overrides it, and how it signs
in to the warehouse.  A mode is spelled without regard to letter case; the directory modes that need
no treatment of their own keep the spelling of the profile, since the driver is given it as it
stands.
-/

namespace WarehouseAccess

/-! ### The driver -/

/-- Which driver to connect with. -/
inductive DriverPreference where
  /-- The native driver, or else the one behind the driver manager. -/
  | auto
  | native
  | odbc
deriving DecidableEq, Repr, Inhabited

namespace DriverPreference

/-- Every preference, in the order in which messages list them. -/
def all : List DriverPreference := [auto, native, odbc]

/-- The spelling of a preference. -/
def text : DriverPreference → String
  | auto => "auto"
  | native => "native"
  | odbc => "odbc"

/-- The preference of a spelling. -/
def ofText? (s : String) : Option DriverPreference :=
  all.find? fun p => p.text == s

/-- Reads a preference; only the exact spellings count. -/
def parse (s : String) : Except InvalidSetting DriverPreference :=
  match ofText? s with
  | some p => .ok p
  | none => .error (.unknownBackend s)

/-- The preference that holds: the override if there is one that is not blank, else the setting. -/
def effective (setting : DriverPreference) (override : Option String) :
    Except InvalidSetting DriverPreference :=
  match override with
  | none => .ok setting
  | some s => if isBlankText s then .ok setting else parse (trim s)

end DriverPreference

/-! ### The authentication mode -/

/-- Where a bearer token for the driver comes from. -/
inductive TokenStrategy where
  /-- The login of the command-line tool of the cloud. -/
  | cli
  /-- The environment, and then the command-line tool. -/
  | auto
  /-- A client secret in environment variables. -/
  | environment
  /-- The host of a Spark session. -/
  | synapseSpark
  /-- The host of a notebook. -/
  | fabricNotebook
deriving DecidableEq, Repr, Inhabited

namespace TokenStrategy

/-- Every strategy. -/
def all : List TokenStrategy := [cli, auto, environment, synapseSpark, fabricNotebook]

/-- The name of a strategy in profiles. -/
def text : TokenStrategy → String
  | cli => "cli"
  | auto => "auto"
  | environment => "environment"
  | synapseSpark => "synapsespark"
  | fabricNotebook => "fabricnotebook"

/-- The strategy of a name. -/
def ofText? (s : String) : Option TokenStrategy :=
  all.find? fun t => t.text == s

end TokenStrategy

/-- How a profile signs in. -/
inductive AuthenticationMode where
  /-- User name and password of the database itself, which the service refuses. -/
  | sql
  | windowsLogin
  | activeDirectoryPassword
  | activeDirectoryServicePrincipal
  | activeDirectoryInteractive
  /-- A bearer token that the profile holds. -/
  | activeDirectoryAccessToken
  /-- A directory mode that the driver carries out by itself. -/
  | activeDirectory (spelling : String)
  /-- A bearer token from a strategy. -/
  | token (strategy : TokenStrategy)
deriving DecidableEq, Repr, Inhabited

namespace AuthenticationMode

/-- The spelling of a mode. -/
def text : AuthenticationMode → String
  | sql => "sql"
  | windowsLogin => "Windows Login"
  | activeDirectoryPassword => "ActiveDirectoryPassword"
  | activeDirectoryServicePrincipal => "ActiveDirectoryServicePrincipal"
  | activeDirectoryInteractive => "ActiveDirectoryInteractive"
  | activeDirectoryAccessToken => "ActiveDirectoryAccessToken"
  | activeDirectory spelling => spelling
  | token strategy => strategy.text

/-- The name of a mode's kind. -/
def kind : AuthenticationMode → String
  | sql => "Sql"
  | windowsLogin => "WindowsLogin"
  | activeDirectoryPassword => "ActiveDirectoryPassword"
  | activeDirectoryServicePrincipal => "ActiveDirectoryServicePrincipal"
  | activeDirectoryInteractive => "ActiveDirectoryInteractive"
  | activeDirectoryAccessToken => "ActiveDirectoryAccessToken"
  | activeDirectory _ => "ActiveDirectory"
  | token _ => "Token"

/-- The mode is named in the connection string. -/
def emitsField : AuthenticationMode → Bool
  | activeDirectoryPassword => true
  | activeDirectoryServicePrincipal => true
  | activeDirectoryInteractive => true
  | activeDirectory _ => true
  | _ => false

/-- The connection string names the user. -/
def needsLoginHint : AuthenticationMode → Bool
  | activeDirectoryPassword => true
  | activeDirectoryServicePrincipal => true
  | activeDirectoryInteractive => true
  | _ => false

/-- The connection string holds the user's secret. -/
def needsSecret : AuthenticationMode → Bool
  | activeDirectoryPassword => true
  | activeDirectoryServicePrincipal => true
  | _ => false

/-- The strategy that fetches the token, if one does. -/
def strategy? : AuthenticationMode → Option TokenStrategy
  | token strategy => some strategy
  | _ => none

/-- The common beginning of the directory modes, in lower case. -/
def directoryStem : String := "activedirectory"

/-- The mode with a fixed lower-case spelling. -/
def ofLowercase? (lower : String) : Option AuthenticationMode :=
  match TokenStrategy.ofText? lower with
  | some strategy => some (.token strategy)
  | none =>
    if lower == "sql" then some .sql
    else if lower == "windows login" || lower == "windowslogin" then some .windowsLogin
    else if lower == "serviceprincipal" || lower == "activedirectoryserviceprincipal" then
      some .activeDirectoryServicePrincipal
    else if lower == "activedirectorypassword" then some .activeDirectoryPassword
    else if lower == "activedirectoryinteractive" then some .activeDirectoryInteractive
    else if lower == "activedirectoryaccesstoken" then some .activeDirectoryAccessToken
    else none

/-- The mode that a text spells; blanks around it do not count, nor does letter case. -/
def ofText? (s : String) : Option AuthenticationMode :=
  let spelling := trim s
  let lower := lowercase spelling
  match ofLowercase? lower with
  | some mode => some mode
  | none =>
    if directoryStem.toList.isPrefixOf lower.toList then some (.activeDirectory spelling)
    else none

end AuthenticationMode

end WarehouseAccess
