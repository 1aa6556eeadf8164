import WarehouseAccess.Json.Record
import WarehouseAccess.Text.Quoted
import WarehouseAccess.Token.Provider
/-!
# Tokens for a client secret

An application proves who it is by a secret and gets a token from the identity service.  Tenant,
client and secret come from the profile or from the environment; the environment may also name
another identity service.
-/

namespace WarehouseAccess

/-- The identity service that is asked unless another is named. -/
def defaultAuthority : String := "https://login.microsoftonline.com"

/-- What an application proves itself by. -/
structure ClientSecret where
  tenantId : String
  clientId : String
  secret : String
  authority : String := defaultAuthority
  /-- Seconds to wait for a response. -/
  timeout : Option Nat := none
deriving DecidableEq, Repr

/-- The reason phrase that belongs to a status. -/
def statusPhrase? : Nat → Option String
  | 100 => some "Continue"
  | 101 => some "Switching Protocols"
  | 102 => some "Processing"
  | 200 => some "OK"
  | 201 => some "Created"
  | 202 => some "Accepted"
  | 203 => some "Non Authoritative Information"
  | 204 => some "No Content"
  | 205 => some "Reset Content"
  | 206 => some "Partial Content"
  | 207 => some "Multi-Status"
  | 208 => some "Already Reported"
  | 226 => some "IM Used"
  | 300 => some "Multiple Choices"
  | 301 => some "Moved Permanently"
  | 302 => some "Found"
  | 303 => some "See Other"
  | 304 => some "Not Modified"
  | 305 => some "Use Proxy"
  | 307 => some "Temporary Redirect"
  | 308 => some "Permanent Redirect"
  | 400 => some "Bad Request"
  | 401 => some "Unauthorized"
  | 402 => some "Payment Required"
  | 403 => some "Forbidden"
  | 404 => some "Not Found"
  | 405 => some "Method Not Allowed"
  | 406 => some "Not Acceptable"
  | 407 => some "Proxy Authentication Required"
  | 408 => some "Request Timeout"
  | 409 => some "Conflict"
  | 410 => some "Gone"
  | 411 => some "Length Required"
  | 412 => some "Precondition Failed"
  | 413 => some "Payload Too Large"
  | 414 => some "URI Too Long"
  | 415 => some "Unsupported Media Type"
  | 416 => some "Range Not Satisfiable"
  | 417 => some "Expectation Failed"
  | 418 => some "I'm a teapot"
  | 421 => some "Misdirected Request"
  | 422 => some "Unprocessable Entity"
  | 423 => some "Locked"
  | 424 => some "Failed Dependency"
  | 425 => some "Too Early"
  | 426 => some "Upgrade Required"
  | 428 => some "Precondition Required"
  | 429 => some "Too Many Requests"
  | 431 => some "Request Header Fields Too Large"
  | 451 => some "Unavailable For Legal Reasons"
  | 500 => some "Internal Server Error"
  | 501 => some "Not Implemented"
  | 502 => some "Bad Gateway"
  | 503 => some "Service Unavailable"
  | 504 => some "Gateway Timeout"
  | 505 => some "HTTP Version Not Supported"
  | 506 => some "Variant Also Negotiates"
  | 507 => some "Insufficient Storage"
  | 508 => some "Loop Detected"
  | 510 => some "Not Extended"
  | 511 => some "Network Authentication Required"
  | _ => none

/-- A status with its reason phrase. -/
def statusText (status : Nat) : String :=
  toString status ++ " " ++ (statusPhrase? status).getD "<unknown status code>"

namespace ClientSecret

/-- The name under which the identity service reports. -/
def providerName : String := "client_secret"

/-- The same with another identity service. -/
def withAuthority (c : ClientSecret) (authority : String) : ClientSecret :=
  { c with authority := dropFinal '/' authority }

/-- The same with a limit of waiting; zero sets none. -/
def withTimeout (c : ClientSecret) (seconds : Nat) : ClientSecret :=
  { c with timeout := if seconds = 0 then none else some seconds }

/-- Where tokens are asked for. -/
def tokenUrl (c : ClientSecret) : String :=
  c.authority ++ "/" ++ c.tenantId ++ "/oauth2/v2.0/token"

/-- The description, which does not show the secret. -/
def describe (c : ClientSecret) : String :=
  "ClientSecretCredential \x7b tenant_id: " ++ quoted c.tenantId ++ ", client_id: " ++
    quoted c.clientId ++ ", authority: " ++ quoted c.authority ++ ", .. \x7d"

/-- Reads the body of a response: the token, and how many seconds it lasts. -/
def readResponse (body : String) (now : Int64) : Except TokenFault AccessToken :=
  match fields body with
  | some (token, seconds) => .ok (AccessToken.lasting token (.ofInt seconds) now)
  | none => .error .unexpectedResponse
where
  /-- The two fields of a body. -/
  fields (body : String) : Option (String × Int) := do
    match ← (← JsonSyntax.read body).record ["access_token", "expires_in"] with
    | [some token, some seconds] =>
      return (← token.asText, ← seconds.asInteger (-0x8000000000000000) 0x7FFFFFFFFFFFFFFF)
    | _ => none

/-- The form that asks for a token. -/
def form (c : ClientSecret) (scope : String) : FormRequest where
  url := c.tokenUrl
  fields := [("grant_type", "client_credentials"), ("client_id", c.clientId),
    ("client_secret", c.secret), ("scope", scope)]
  timeout := c.timeout

/-- Asks the identity service for a token. -/
def requestToken {σ : Type} (c : ClientSecret) (system : TokenSystem σ) (scope : String) (w : σ) :
    Except AuthError AccessToken × σ :=
  match system.send (c.form scope) w with
  | (.failure reason, w) => (.error (.provider providerName (.other reason)), w)
  | (.response r, w) =>
    if r.isSuccess then
      let (now, w) := system.now w
      ((readResponse r.body now).mapError (.provider providerName), w)
    else (.error (.provider providerName (.refused (statusText r.status) r.body)), w)

/-! ### From the profile -/

/-- A field that has to be there. -/
def require (value : Option String) (name : String) : Except AuthError String :=
  match value with
  | some v => .ok v
  | none => .error (.setup (.principalField name))

/-- The application that a profile names. -/
def ofProfile (p : Profile) : Except AuthError ClientSecret := do
  let tenantId ← require p.tenantId "tenant_id"
  let clientId ← require p.clientId "client_id"
  let secret ← require p.clientSecret "client_secret"
  return withTimeout { tenantId, clientId, secret } p.loginTimeout.toNat

/-- Tokens for the application that the profile names. -/
def profileProvider {σ : Type} (system : TokenSystem σ) : TokenProvider σ where
  name := "service_principal"
  request p scope w :=
    match ofProfile p with
    | .error e => (.error e, w)
    | .ok c => c.requestToken system scope w

/-! ### From the environment -/

/-- The name of the provider for the environment. -/
def environmentName : String := "environment"

/-- A variable that has to be set, and not to nothing. -/
def requireVariable (environment : String → Option String) (name : String) :
    Except AuthError String :=
  match (environment name).filter (· != "") with
  | some v => .ok v
  | none => .error (.provider environmentName (.variableNotSet name))

/-- The application that the environment names. -/
def ofEnvironment (environment : String → Option String) : Except AuthError ClientSecret := do
  let tenantId ← requireVariable environment "AZURE_TENANT_ID"
  let clientId ← requireVariable environment "AZURE_CLIENT_ID"
  let secret ← requireVariable environment "AZURE_CLIENT_SECRET"
  let c : ClientSecret := { tenantId, clientId, secret }
  match (environment "AZURE_AUTHORITY_HOST").filter (· != "") with
  | some authority => return c.withAuthority authority
  | none => return c

/-- Tokens for the application that the environment names. -/
def environmentProvider {σ : Type} (system : TokenSystem σ) : TokenProvider σ where
  name := environmentName
  request p scope w :=
    match ofEnvironment system.environment with
    | .error e => (.error e, w)
    | .ok c => (c.withTimeout p.loginTimeout.toNat).requestToken system scope w

end ClientSecret

end WarehouseAccess
