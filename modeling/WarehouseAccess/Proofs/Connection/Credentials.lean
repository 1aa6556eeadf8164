import WarehouseAccess.Proofs.Connection.Logins
import WarehouseAccess.Proofs.Driver.TokenBuffer
import WarehouseAccess.Proofs.Token.Expiry

/-!
# The credentials of logins

Which attributes reach the driver depends on the backend and on the mode of the profile:
`Login.CarriesCredential` is the table.  A token of a strategy is either fetched during the very try
or remembered from an earlier one and not about to expire; a token of the profile itself is taken
from there; in all other cases there is no attribute.  `credentials_of_logins` shows that the table
is kept by every call to connect, however often opening is tried and whatever managers share what is
remembered.

With a margin that leaves the range of signed numbers a remembered token counts as lasting when it
does not: `expired_credential_carried` is a call to connect that carries one.
-/

namespace WarehouseAccess

variable {σ τ : Type}

/-- The bytes are the buffer of a token: at least as long as the token is not huge, it is read back
from them. -/
def HoldsToken (bytes : List UInt8) (token : String) : Prop :=
  token.utf8ByteSize < 2 ^ 30 → decodeToken bytes = .ok token

namespace Login

open TokenAuthority

variable (services : Services σ τ) (login : Login σ τ)

/-- Providers were asked for this token during the try, on behalf of its profile: by some strategy,
for the scope of the database. -/
def Fetched (token : AccessToken) : Prop :=
  ∃ s, login.asked services =
    [⟨.strategy s, login.manager.profile, databaseScope, .ok token⟩]

/-- The attributes of a call to connect are the right ones for the backend and the mode, where
`earlier` are the logins that were tried before.  A token that one of them fetched does not expire
within the margin of the profile: where neither the margin nor the time that the token has left
leaves the range of signed numbers of 64 bits, at least the margin remains. -/
def CarriesCredential (earlier : List (Login σ τ)) (attributes : LoginAttributes) : Prop :=
  let p := login.manager.profile
  match login.backend, p.authentication with
  | .odbc, .token s => ∃ (token : AccessToken) (bytes : List UInt8),
      attributes = [(1256, bytes)] ∧ HoldsToken bytes token.token ∧
        (login.asked services = [⟨.strategy s, p, databaseScope, .ok token⟩] ∨
          login.asked services = [] ∧ (∃ before ∈ earlier, before.Fetched services token) ∧
            token.expiresWithin p.tokenRefreshMarginSecs.toInt64
              (services.authority.now login.session.world).1 = false ∧
            (services.authority.FitsMargin p token login.session.world →
              marginOf p ≤ services.authority.remaining token login.session.world))
  | .odbc, .activeDirectoryAccessToken => ∃ (token : String) (bytes : List UInt8),
      p.accessToken = some token ∧ attributes = [(1256, bytes)] ∧ HoldsToken bytes token ∧
        login.asked services = []
  | _, _ => attributes = [] ∧ login.asked services = []

/-- In the mode of a strategy, on the backend that takes tokens, the token is found by the rules. -/
lemma findsToken_inquiry {s : TokenStrategy} (hbackend : login.backend = .odbc)
    (hmode : login.manager.profile.authentication = .token s) :
    ∃ outcome, login.attributes services =
        outcome.map (fun token => .accessToken (encodeToken token.token)) ∧
      services.authority.FindsToken login.manager.profile s login.session.tokens
        login.session.world outcome (login.asked services) (login.inquiry services).cacheAfter := by
  obtain ⟨outcome, hresult, hfinds⟩ := services.authority.findsToken_preAuthAttributes
    login.manager.profile login.backend s login.session.tokens login.session.world
    (by rw [hbackend]; rfl) hmode
  have hreturned := login.result_inquiry services
  rw [inquiry, hresult] at hreturned
  exact ⟨outcome, (TokenReturn.attributes.inj hreturned).symm, hfinds⟩

/-- In other modes and on the other backend nobody is asked, and what is remembered stays. -/
lemma ignoresCache_inquiry (h : login.backend.requiresTokenBytes = false ∨
      login.manager.profile.authentication.strategy? = none) :
    login.asked services = [] ∧ (login.inquiry services).cacheAfter = login.session.tokens := by
  obtain ⟨hasked, hcache, -⟩ := services.authority.ignoresCache_preAuthAttributes
    login.manager.profile login.backend login.session.tokens login.session.world h
  exact ⟨hasked, hcache⟩

/-- What is remembered after a try was remembered before, or it was fetched during it. -/
lemma tokens_or_fetched {token : AccessToken}
    (h : (login.inquiry services).cacheAfter = some token) :
    login.session.tokens = some token ∨ login.Fetched services token := by
  -- the memory changes only where a token of the database is looked for
  by_cases hignores : login.backend.requiresTokenBytes = false ∨
      login.manager.profile.authentication.strategy? = none
  · rw [(login.ignoresCache_inquiry services hignores).2] at h
    exact .inl h
  · push Not at hignores
    obtain ⟨hbytes, hstrategy⟩ := hignores
    have hbackend : login.backend = .odbc := by
      cases hb : login.backend with
      | native => simp [hb, Backend.requiresTokenBytes] at hbytes
      | odbc => rfl
    cases hmode : login.manager.profile.authentication with
    | token s =>
      obtain ⟨outcome, -, hfinds⟩ := login.findsToken_inquiry services hbackend hmode
      cases outcome with
      | error e =>
        rw [hfinds.kept e rfl] at h
        exact .inl h
      | ok token' =>
        rw [hfinds.remembered token' rfl] at h
        obtain rfl := Option.some.inj h
        rcases hfinds.source_of_ok with hasked | ⟨-, hcache, -⟩
        · exact .inr ⟨s, hasked⟩
        · exact .inl hcache
    | _ => simp [hmode, AuthenticationMode.strategy?] at hstrategy

end Login

/-- A token that is remembered along logins was remembered at the beginning, or one of them fetched
it. -/
lemma fetched_of_tokensAlong {services : Services σ τ} {cache : TokenCache}
    {logins : List (Login σ τ)} {token : AccessToken}
    (h : TokensAlong services cache logins (some token)) :
    cache = some token ∨ ∃ login ∈ logins, login.Fetched services token := by
  induction logins generalizing cache with
  | nil => exact .inl h.symm
  | cons login logins ih =>
    obtain ⟨hfinds, hrest⟩ := h
    rcases ih hrest with hafter | ⟨before, hmem, hfetched⟩
    · rcases login.tokens_or_fetched services hafter with hcache | hfetched
      · exact .inl (hfinds.symm.trans hcache)
      · exact .inr ⟨login, List.mem_cons_self, hfetched⟩
    · exact .inr ⟨before, List.mem_cons_of_mem _ hmem, hfetched⟩

namespace Login

/-- A buffer holds the token that it was made for. -/
lemma holdsToken_encodeToken (token : String) : HoldsToken (encodeToken token) token :=
  decodeToken_encodeToken

/-- The attributes of every call of a try are the right ones, if the token that the try finds
remembered was fetched by one of the logins before. -/
lemma carriesCredential_of_mem_calls (services : Services σ τ) (login : Login σ τ)
    {earlier : List (Login σ τ)} {call : ConnectCall} (h : call ∈ login.calls services)
    (hremembered : ∀ token, login.session.tokens = some token →
      ∃ before ∈ earlier, before.Fetched services token) :
    login.CarriesCredential services earlier call.attributes := by
  obtain ⟨-, attributes, hattributes, hcall⟩ := login.of_mem_calls services h
  rw [hcall]
  have hpre := hattributes
  rw [Login.attributes, TokenAuthority.preAuthAttributes] at hpre
  dsimp only [CarriesCredential]
  cases hbackend : login.backend with
  | native => exact ⟨rfl, (login.ignoresCache_inquiry services (.inl (by rw [hbackend]; rfl))).1⟩
  | odbc =>
    rw [hbackend, if_pos (show Backend.odbc.requiresTokenBytes = true from rfl)] at hpre
    cases hmode : login.manager.profile.authentication with
    | token s =>
      obtain ⟨outcome, hfound, hfinds⟩ := login.findsToken_inquiry services hbackend hmode
      rw [hattributes] at hfound
      cases outcome with
      | error e => simp [Except.map] at hfound
      | ok token =>
        obtain rfl := Except.ok.inj hfound
        refine ⟨token, _, rfl, holdsToken_encodeToken token.token, ?_⟩
        rcases hfinds.source_of_ok with hasked | ⟨hasked, hcache, hexpires⟩
        · exact .inl hasked
        · exact .inr ⟨hasked, hremembered token hcache, hexpires,
            fun hfits => (TokenAuthority.expiresWithin_eq_false_iff_le hfits).mp hexpires⟩
    | activeDirectoryAccessToken =>
      have hasked := (login.ignoresCache_inquiry services (.inr (by rw [hmode]; rfl))).1
      rw [hmode] at hpre
      dsimp only at hpre
      unfold Profile.ownToken at hpre
      split at hpre
      · next token _ htoken _ =>
        obtain rfl := Except.ok.inj hpre
        exact ⟨token, _, htoken, rfl, holdsToken_encodeToken token, hasked⟩
      · simp [Except.map] at hpre
    | _ =>
      rw [hmode] at hpre
      exact ⟨(Except.ok.inj hpre).symm,
        (login.ignoresCache_inquiry services (.inr (by rw [hmode]; rfl))).1⟩

end Login

namespace ConnectionManager

/-- An error while looking for the attributes ends trying: the try that it befalls is the last. -/
lemma tries_of_attributes_error {m : ConnectionManager} {services : Services σ τ} {b : Backend}
    {text : String} {s start : Session σ τ} {e : AuthError}
    (hstart : start ∈ m.tryStarts services b text s)
    (he : (Login.mk m b text start).attributes services = .error e) :
    (m.tries services b text s).1 = .error (.auth e) := by
  have hattempt : (m.attempt services b text start).1 = .error (.auth e) :=
    congrArg Prod.fst (Login.attempted_of_error services ⟨m, b, text, start⟩ he)
  have hends := RetryPolicy.starts_induction (ConnectionError.isRetryable b)
    (fun _ => m.attempt services b text)
    (fun _ starts final => ∀ start ∈ starts,
      (m.attempt services b text start).1 = .error (.auth e) → final.1 = .error (.auth e))
    (RetryPolicy.new m.profile.retries.toNat retryInterval) Session.pause ?_ ?_ s
  · exact hends start hstart hattempt
  · intro _ s' start hmem hfails
    rwa [← List.mem_singleton.mp hmem]
  · intro _ s' e' starts final herror hretry hrest start hmem hfails
    rcases List.mem_cons.mp hmem with rfl | hmem
    · -- an authentication error is never worth another try
      rw [hfails] at herror
      obtain rfl := Except.error.inj herror
      simp [ConnectionError.isRetryable, ConnectionError.driverError?] at hretry
    · exact hrest start hmem hfails

/-- An error while looking for the attributes ends connecting: it is not tried again. -/
lemma connect_of_attributes_error {m : ConnectionManager} {services : Services σ τ}
    {s : Session σ τ} {login : Login σ τ} (h : login ∈ m.logins services s) {e : AuthError}
    (he : login.attributes services = .error e) :
    (m.connect services s).1 = .error (.auth e) := by
  have hconnects := m.connects_connect services s
  generalize m.connect services s = result at hconnects ⊢
  unfold logins at h
  cases hconnects with
  | noBackend hbackend => simp [hbackend] at h
  | noText hbackend htext => simp [hbackend, htext] at h
  | failed hbackend htext htries =>
    simp only [hbackend, htext] at h
    obtain ⟨start, hstart, rfl⟩ := List.mem_map.mp h
    have hends := tries_of_attributes_error hstart he
    rw [htries] at hends
    rw [Except.error.inj hends]
  | connected hbackend htext htries =>
    simp only [hbackend, htext] at h
    obtain ⟨start, hstart, rfl⟩ := List.mem_map.mp h
    have hends := tries_of_attributes_error hstart he
    rw [htries] at hends
    simp at hends

end ConnectionManager

/-- Any uses of connections, one after the other, by managers that share an authority whose memory
is empty at first and nothing else; whatever the drivers, the providers of tokens, the clock and the
control plane do:

* the calls to connect that a driver gets during a use are just those of its logins on the driver's
  backend;
* every such call carries the credential of its backend and mode.  Tokens are fetched for the
  database, which is another scope than that of the control plane;
* a login that finds no attributes calls no driver, and the opening that it belongs to ends with the
  error. -/
theorem credentials_of_logins (services : Services σ τ) (visits : List (Visit σ τ)) :
    (∀ (v : Visit σ τ) (tokens : TokenCache) (b : Backend),
      (v.after services tokens).drivers.connectCalls b = v.session.drivers.connectCalls b ++
        ((v.logins services tokens).filter fun login => login.backend == b).flatMap
          fun login => login.calls services) ∧
    (∀ earlier login later, Visit.loginsAlong services none visits = earlier ++ login :: later →
      ∀ call ∈ login.calls services, login.CarriesCredential services earlier call.attributes) ∧
    databaseScope ≠ controlPlaneScope ∧
    ∀ (m : ConnectionManager) (c : Connection) (s : Session σ τ), c.isOpen = false →
      ∀ login ∈ m.logins services s, ∀ e, login.attributes services = .error e →
        login.calls services = [] ∧ (m.openConnection services c s).1 = .error (.auth e) := by
  refine ⟨fun v tokens => (v.signedIn_after services tokens).connectCalls,
    fun earlier login later hsplit call hcall => ?_, by decide,
    fun m c s hopen login hmem e he => ⟨login.calls_of_error services he, ?_⟩⟩
  · refine login.carriesCredential_of_mem_calls services hcall fun token htoken => ?_
    obtain ⟨tokens, halong⟩ := Visit.tokensAlong_loginsAlong services none visits
    rw [hsplit] at halong
    obtain ⟨cache, hearlier, hfinds, -⟩ := tokensAlong_append.mp halong
    rw [← hfinds, htoken] at hearlier
    exact (fetched_of_tokensAlong hearlier).resolve_left nofun
  · have hfails := ConnectionManager.connect_of_attributes_error hmem he
    rcases hconnect : m.connect services s with ⟨outcome, s'⟩
    rw [hconnect] at hfails
    obtain rfl : outcome = .error (.auth e) := hfails
    rw [ConnectionManager.openConnection_of_connect_error hopen hconnect]

/-- An authority with scripted tokens of the command-line tool, and no control plane. -/
def toolServices : Services ScriptedTokens Unit where
  authority := (TokenAuthority.empty ScriptedTokens.bareSystem).withProvider .cli
    (ScriptedTokens.provider "cli" "cli")
  connector := ⟨fun _ _ w service => (.error (.auth (.noProvider "control plane")), w, service)⟩

/-- The manager of a profile that signs in with the command-line tool, with a margin of `2 ^ 63`
seconds. -/
def hugeMarginManager : ConnectionManager where
  profile := { Profile.new "warehouse.example" "sales" "dbo" with
    authentication := .token .cli
    tokenRefreshMarginSecs := 0x8000000000000000 }

/-- The opening of a new connection by the manager, at second 2000. -/
def lateVisit : Visit ScriptedTokens Unit where
  connection := .new "master"
  session :=
    { drivers := { odbc := some { script := {} } }
      world := { clock := 2000, scripts := [("cli", [.expiring "token-1" 1000])] } }
  use := .openBy hugeMarginManager

/-- With a margin above the range of signed numbers a call to connect carries a token that expired
1000 seconds ago: the first opening fetched it, and the second one neither fetches one nor finds
that this one is about to expire. -/
theorem expired_credential_carried :
    ∃ first second, Visit.loginsAlong toolServices none [lateVisit, lateVisit] = [first, second] ∧
      first.Fetched toolServices ⟨"token-1", 1000⟩ ∧
      second.asked toolServices = [] ∧
      (second.calls toolServices).map ConnectCall.attributes = [[(1256, encodeToken "token-1")]] ∧
      HoldsToken (encodeToken "token-1") "token-1" ∧
      toolServices.authority.remaining ⟨"token-1", 1000⟩ second.session.world = -1000 ∧
      TokenAuthority.marginOf second.manager.profile = 2 ^ 63 := by
  refine ⟨_, _, rfl, ⟨.cli, rfl⟩, rfl, rfl, Login.holdsToken_encodeToken _, rfl, rfl⟩

end WarehouseAccess
