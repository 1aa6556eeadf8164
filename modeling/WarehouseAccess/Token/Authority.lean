import WarehouseAccess.Driver.Backend
import WarehouseAccess.Driver.TokenBuffer
import WarehouseAccess.Token.ClientSecret
import WarehouseAccess.Token.CommandLineLogin
/-!
# Signing in with tokens

A token authority knows the provider of each strategy and the one for service principals.  The last
token for the database is remembered and used again until it is about to expire; tokens for the
control plane are not.

On the backend that takes tokens beside the connection string, `preAuthAttributes` puts the token
into the attributes of the login.
-/

namespace WarehouseAccess

/-- Who provides tokens, and the clock by which they expire. -/
structure TokenAuthority (σ : Type) where
  now : σ → Int64 × σ
  provider? : TokenStrategy → Option (TokenProvider σ)
  principal : TokenProvider σ

/-- The token for the database that was fetched last. -/
abbrev TokenCache := Option AccessToken

/-- Forgets the token, so that the next one is fetched. -/
def TokenCache.clear (_ : TokenCache) : TokenCache := none

namespace TokenAuthority

variable {σ : Type}

/-- An authority without a provider for any strategy. -/
def empty (system : TokenSystem σ) : TokenAuthority σ where
  now := system.now
  provider? _ := none
  principal := ClientSecret.profileProvider system

/-- The authority with a provider for a strategy. -/
def withProvider (a : TokenAuthority σ) (s : TokenStrategy) (provider : TokenProvider σ) :
    TokenAuthority σ :=
  { a with provider? := fun t => if t = s then some provider else a.provider? t }

/-- The authority with another provider for service principals. -/
def withPrincipal (a : TokenAuthority σ) (provider : TokenProvider σ) : TokenAuthority σ :=
  { a with principal := provider }

/-- The authority with the providers that need no host. -/
def standard (system : TokenSystem σ) : TokenAuthority σ :=
  let tool := CommandLineLogin.provider system CommandLineLogin.defaultProgram
  let environment := ClientSecret.environmentProvider system
  (empty system).withProvider .cli tool
    |>.withProvider .environment environment
    |>.withProvider .auto (.chain [environment, tool])

/-- The strategies that have a provider, by name. -/
def strategies (a : TokenAuthority σ) : List TokenStrategy :=
  [.auto, .cli, .environment, .fabricNotebook, .synapseSpark].filter fun s =>
    (a.provider? s).isSome

/-- The description of an authority. -/
def describe (a : TokenAuthority σ) : String :=
  "TokenAuthenticator \x7b providers: [" ++
    String.intercalate ", " (a.strategies.map fun s => quoted s.text) ++ "], .. \x7d"

/-- A new token of a strategy. -/
def fetch (a : TokenAuthority σ) (p : Profile) (s : TokenStrategy) (scope : String) (w : σ) :
    Except AuthError AccessToken × σ :=
  match a.provider? s with
  | none => (.error (.noProvider s.text), w)
  | some provider => provider.request p scope w

/-- A new token for the database, which takes the place of the remembered one. -/
def refresh (a : TokenAuthority σ) (p : Profile) (s : TokenStrategy) (cache : TokenCache) (w : σ) :
    Except AuthError AccessToken × TokenCache × σ :=
  match a.fetch p s databaseScope w with
  | (.ok token, w) => (.ok token, some token, w)
  | (.error e, w) => (.error e, cache, w)

/-- A token for the database: the remembered one unless it expires within the margin that the
profile sets, and else a new one. -/
def cachedToken (a : TokenAuthority σ) (p : Profile) (s : TokenStrategy) (cache : TokenCache)
    (w : σ) : Except AuthError AccessToken × TokenCache × σ :=
  match cache with
  | none => a.refresh p s none w
  | some token =>
    let (now, w) := a.now w
    if token.expiresWithin p.tokenRefreshMarginSecs.toInt64 now then a.refresh p s (some token) w
    else (.ok token, some token, w)

end TokenAuthority

/-- The token that the profile itself holds; it needs an expiry beside it. -/
def Profile.ownToken (p : Profile) : Except AuthError String :=
  match p.accessToken, p.accessTokenExpiresOn with
  | some token, some _ => .ok token
  | _, _ => .error (.setup .profileToken)

namespace TokenAuthority

variable {σ : Type}

/-- The attributes of a login: those that hand over a token on a backend that takes them, if the
mode has a token, and else none. -/
def preAuthAttributes (a : TokenAuthority σ) (p : Profile) (b : Backend) (cache : TokenCache)
    (w : σ) : Except AuthError LoginAttributes × TokenCache × σ :=
  if b.requiresTokenBytes then
    match p.authentication with
    | .token s =>
      match a.cachedToken p s cache w with
      | (.ok t, cache, w) => (.ok (.accessToken (encodeToken t.token)), cache, w)
      | (.error e, cache, w) => (.error e, cache, w)
    | .activeDirectoryAccessToken =>
      (p.ownToken.map fun token => .accessToken (encodeToken token), cache, w)
    | _ => (.ok [], cache, w)
  else (.ok [], cache, w)

/-- A token for the control plane. -/
def controlPlaneToken (a : TokenAuthority σ) (p : Profile) (w : σ) : Except AuthError String × σ :=
  match p.authentication with
  | .token s =>
    let (outcome, w) := a.fetch p s controlPlaneScope w
    (outcome.map AccessToken.token, w)
  | .activeDirectoryAccessToken => (p.ownToken, w)
  | .activeDirectoryServicePrincipal =>
    let (outcome, w) := a.principal.request p controlPlaneScope w
    (outcome.map AccessToken.token, w)
  | mode => (.error (.unsupported mode.text), w)

end TokenAuthority

end WarehouseAccess
