import WarehouseAccess.Text.Quoted
/-!
# Access tokens

A bearer token and the second at which it expires, counted from 1970-01-01 in universal time, the
scopes for which tokens are asked, and why there is none: the profile lacks something, a provider
failed, nobody provides tokens of the wanted kind, or the authentication mode has none.  Seconds are
signed numbers of 64 bits, and so are the differences taken of them.
-/

namespace WarehouseAccess

/-- A bearer token and its expiry. -/
structure AccessToken where
  token : String
  expiresOn : Int64
deriving DecidableEq, Repr

namespace AccessToken

/-- A token that is valid for so many seconds from now. -/
def lasting (token : String) (seconds now : Int64) : AccessToken := ⟨token, now + seconds⟩

/-- Fewer than `margin` seconds remain. -/
def expiresWithin (t : AccessToken) (margin now : Int64) : Bool := t.expiresOn - now < margin

/-- The description of a token, which does not show it. -/
def describe (t : AccessToken) : String :=
  "AccessToken \x7b token: \"***\", expires_on: " ++ toString t.expiresOn.toInt ++ " \x7d"

end AccessToken

/-- The scope of tokens for the database. -/
def databaseScope : String := "https://database.windows.net//.default"

/-- The scope of tokens for the control plane. -/
def controlPlaneScope : String := "https://api.fabric.microsoft.com/.default"

/-- How long a token is taken to last when its source names no expiry. -/
def unstatedLifetime : Int64 := 4500

/-! ### Errors of signing in -/

/-- What a profile lacks. -/
inductive AuthSetup where
  /-- A field that the login of a service principal needs. -/
  | principalField (name : String)
  /-- The token of the profile, or its expiry. -/
  | profileToken
  /-- A reason that a caller gives. -/
  | other (reason : String)
deriving DecidableEq, Repr

/-- The wording of a reason. -/
def AuthSetup.message : AuthSetup → String
  | principalField name => name ++ " is required for service principal authentication"
  | profileToken =>
    "Access token and access token expiry are required for " ++
      "ActiveDirectoryAccessToken authentication."
  | other reason => reason

/-- Why a provider has no token. -/
inductive TokenFault where
  /-- The output of the command-line tool is not of the expected form. -/
  | unexpectedOutput
  | noExpiry
  | invalidExpiry (spelling : String)
  /-- The local time does not occur. -/
  | ambiguousExpiry (spelling : String)
  | programNotRun (program reason : String)
  /-- The command-line tool reports a failure. -/
  | programFailed (complaint : String)
  | variableNotSet (name : String)
  /-- The body of the identity service's response is not of the expected form. -/
  | unexpectedResponse
  /-- The identity service refuses. -/
  | refused (status body : String)
  /-- No provider of a chain has a token; these are their errors. -/
  | allFailed (messages : List String)
  /-- A reason in the words of the source. -/
  | other (reason : String)
deriving DecidableEq, Repr

/-- The wording of a fault. -/
def TokenFault.message : TokenFault → String
  | unexpectedOutput => "unexpected output"
  | noExpiry => "output has no expiry"
  | invalidExpiry spelling => "invalid expiresOn '" ++ spelling ++ "'"
  | ambiguousExpiry spelling => "ambiguous expiresOn '" ++ spelling ++ "'"
  | programNotRun program reason => "failed to run " ++ program ++ ": " ++ reason
  | programFailed complaint => complaint
  | variableNotSet name => name ++ " is not set"
  | unexpectedResponse => "unexpected response"
  | refused status body => "token endpoint returned " ++ status ++ ": " ++ body
  | allFailed messages => String.intercalate "; " messages
  | other reason => reason

/-- Why there is no token. -/
inductive AuthError where
  | setup (why : AuthSetup)
  | provider (name : String) (fault : TokenFault)
  /-- Nobody provides tokens for the strategy. -/
  | noProvider (strategy : String)
  /-- The mode has no token for the control plane. -/
  | unsupported (mode : String)
deriving DecidableEq, Repr

/-- The name of an error's kind. -/
def AuthError.kind : AuthError → String
  | setup _ => "Config"
  | provider .. => "Provider"
  | noProvider _ => "NoProvider"
  | unsupported _ => "Unsupported"

/-- The wording of an error. -/
def AuthError.message : AuthError → String
  | setup why => "Authentication configuration error: " ++ why.message
  | provider name fault => name ++ " token provider failed: " ++ fault.message
  | noProvider strategy => "No token provider registered for '" ++ strategy ++ "'"
  | unsupported mode => "Authentication '" ++ mode ++ "' cannot obtain a control-plane token"

end WarehouseAccess
