import WarehouseAccess.Proofs.Connection.Credentials
import WarehouseAccess.Proofs.Profile.Checks

/-!
# How logins authenticate

There are three ways in which a call to connect can say who is signing in: the field for integrated
login, the field that names the authentication mode, and the attribute with an access token.  For a
profile that was checked there is one of them at most, and on the backend behind the driver manager
exactly one, with one exception.  A profile can name integrated login as its mode without setting
the flag for it: the checks leave such a profile as it is, and the connection strings go by the flag
only, so its logins say nothing at all.
-/

namespace WarehouseAccess

variable {σ τ : Type}

/-- The ways to say who is signing in. -/
inductive Mechanism where
  /-- A field asks for integrated login. -/
  | trustedConnection
  /-- A field names the authentication mode. -/
  | authentication
  /-- An attribute holds an access token. -/
  | accessToken
deriving DecidableEq, Repr

namespace Mechanism

/-- The mechanism that a field stands for, if it stands for one. -/
def ofField? (f : ConnectionField) : Option Mechanism :=
  if f.key = "Trusted_Connection" ∨ f.key = "trusted_connection" then some .trustedConnection
  else if f.key = "Authentication" then some .authentication
  else none

/-- The mechanism that an attribute stands for, if it stands for one. -/
def ofAttribute? (a : Int × List UInt8) : Option Mechanism :=
  if a.1 = accessTokenAttribute then some .accessToken else none

/-- The mechanisms in the fields and attributes of a call to connect. -/
def among (fields : List ConnectionField) (attributes : LoginAttributes) : List Mechanism :=
  fields.filterMap ofField? ++ attributes.filterMap ofAttribute?

end Mechanism

/-! ### The fields -/

namespace ConnectionTarget

open Mechanism

/-- The mechanisms that the fields of a target stand for. -/
def mechanisms (t : ConnectionTarget) : List Mechanism :=
  if t.windowsLogin then [.trustedConnection]
  else if t.authentication.emitsField then [.authentication]
  else []

/-- User and secret are no mechanism by themselves. -/
lemma filterMap_hint_eq_nil (value : Option String) (key : String) (braced : Bool)
    (h : ∀ value braced, ofField? ⟨key, value, braced⟩ = none) :
    (value.toList.map fun value => (⟨key, value, braced⟩ : ConnectionField)).filterMap ofField? =
      [] := by
  cases value <;> simp [h]

/-- The fields for signing in stand for the mechanisms of the target. -/
lemma filterMap_loginFields (t : ConnectionTarget) (trustedKey : String) (braced : Bool)
    (h : trustedKey = "Trusted_Connection" ∨ trustedKey = "trusted_connection") :
    (t.loginFields trustedKey braced).filterMap ofField? = t.mechanisms := by
  unfold loginFields mechanisms
  by_cases hflag : t.windowsLogin = true
  · simp [hflag, ofField?, h]
  · rw [if_neg hflag, if_neg hflag]
    by_cases hemits : t.authentication.emitsField = true
    · have hmode : ofField? ⟨"Authentication", t.authentication.text, false⟩ =
          some .authentication := by
        simp [ofField?]
      rw [if_pos hemits, if_pos hemits, List.filterMap_cons_some hmode, List.filterMap_append,
        filterMap_hint_eq_nil _ "UID" braced fun _ _ => by simp [ofField?],
        filterMap_hint_eq_nil _ "PWD" braced fun _ _ => by simp [ofField?], List.append_nil]
    · rw [if_neg hemits, if_neg hemits, List.filterMap_nil]

/-- The fields at the end stand for no mechanism. -/
lemma filterMap_finalFields (t : ConnectionTarget) (encryptKey : String)
    (h : encryptKey = "Encrypt" ∨ encryptKey = "encrypt") :
    (t.finalFields encryptKey).filterMap ofField? = [] := by
  rcases h with rfl | rfl <;> simp [finalFields, ofField?]

/-- The fields of a connection string stand for the mechanisms of the target, on both backends. -/
lemma filterMap_fields (t : ConnectionTarget) (b : Backend) :
    (b.fields t).filterMap ofField? = t.mechanisms := by
  cases b with
  | native =>
    simp only [Backend.fields, nativeFields, List.filterMap_append,
      t.filterMap_loginFields "Trusted_Connection" false (.inl rfl),
      t.filterMap_finalFields "Encrypt" (.inl rfl)]
    simp [ofField?]
  | odbc =>
    simp only [Backend.fields, odbcFields, List.filterMap_append,
      t.filterMap_loginFields "trusted_connection" true (.inr rfl),
      t.filterMap_finalFields "encrypt" (.inr rfl)]
    simp [ofField?]

end ConnectionTarget

/-! ### The attributes -/

/-- The mode signs in with an access token. -/
def AuthenticationMode.usesToken : AuthenticationMode → Bool
  | activeDirectoryAccessToken => true
  | token _ => true
  | _ => false

/-- The attributes that reach a driver hold an access token just on the backend that takes one, and
in a mode that uses one. -/
lemma Login.filterMap_attributes (services : Services σ τ) (login : Login σ τ)
    {attributes : LoginAttributes} (h : login.attributes services = .ok attributes) :
    (login.backend.attributes attributes).filterMap Mechanism.ofAttribute? =
      if login.backend = .odbc ∧ login.manager.profile.authentication.usesToken = true then
        [.accessToken]
      else [] := by
  cases hbackend : login.backend with
  | native => rfl
  | odbc =>
    have htoken (bytes : List UInt8) :
        (LoginAttributes.accessToken bytes).filterMap Mechanism.ofAttribute? = [.accessToken] := rfl
    have hpre := h
    rw [Login.attributes, TokenAuthority.preAuthAttributes, hbackend,
      if_pos (show Backend.odbc.requiresTokenBytes = true from rfl)] at hpre
    change attributes.filterMap Mechanism.ofAttribute? = _
    cases hmode : login.manager.profile.authentication with
    -- a token mode hands over the token that was found
    | token s =>
      obtain ⟨outcome, hfound, -⟩ := login.findsToken_inquiry services hbackend hmode
      rw [h] at hfound
      cases outcome with
      | error e => simp [Except.map] at hfound
      | ok token =>
        obtain rfl := Except.ok.inj hfound
        exact htoken _
    -- this one hands over the token of the profile
    | activeDirectoryAccessToken =>
      rw [hmode] at hpre
      dsimp only at hpre
      cases hown : login.manager.profile.ownToken with
      | error e => simp [hown, Except.map] at hpre
      | ok token =>
        rw [hown] at hpre
        obtain rfl := Except.ok.inj hpre
        exact htoken _
    | _ =>
      rw [hmode] at hpre
      obtain rfl := Except.ok.inj hpre
      rfl

/-! ### Checked profiles -/

/-- Every call to connect of an opening, by a manager of a checked profile and in any session, says
in one way at most who is signing in.  Behind the driver manager it does so in exactly one way,
unless the mode is integrated login and its flag is not set.  Integrated login is asked for just
when the flag is set. -/
theorem mechanisms_of_validated {p q : Profile} (h : p.validated = .ok q)
    (services : Services σ τ) (applicationName : String) (c : Connection) (s : Session σ τ)
    (b : Backend) :
    let m : ConnectionManager := ⟨q, applicationName⟩
    let fields := b.fields (.ofProfile q applicationName (loginFields q).1 (loginFields q).2)
    ∃ calls, (m.openConnection services c s).2.2.drivers.connectCalls b =
        s.drivers.connectCalls b ++ calls ∧
      ∀ call ∈ calls, call.connectionString = String.ofList (renderFields fields) ∧
        (Mechanism.among fields call.attributes).length ≤ 1 ∧
        (b = .odbc → ((Mechanism.among fields call.attributes).length = 1 ↔
          (q.authentication = .windowsLogin → q.windowsLogin = true))) ∧
        (.trustedConnection ∈ Mechanism.among fields call.attributes ↔ q.windowsLogin = true) := by
  intro m fields
  refine ⟨_, (m.signedIn_openConnection services c s).connectCalls b, fun call hcall => ?_⟩
  -- the call belongs to a login of this manager on this backend
  obtain ⟨login, hlogin, hmade⟩ := List.mem_flatMap.mp hcall
  obtain ⟨hmem, hbackend⟩ := List.mem_filter.mp hlogin
  obtain rfl : login.backend = b := by simpa using hbackend
  obtain ⟨hmanager, htext⟩ : login.manager = m ∧
      m.connectionString login.backend = .ok login.text := by
    split_ifs at hmem
    · simp at hmem
    · exact ConnectionManager.of_mem_logins hmem
  obtain ⟨hstring, attributes, hattributes, hcallAttributes⟩ := login.of_mem_calls services hmade
  -- what the connection string says and what the attributes say
  have hfields := ConnectionTarget.filterMap_fields
    (.ofProfile q applicationName (loginFields q).1 (loginFields q).2) login.backend
  have htoken := login.filterMap_attributes services hattributes
  rw [hmanager] at htoken
  have hamong : Mechanism.among fields call.attributes =
      (if q.windowsLogin then [.trustedConnection]
        else if q.authentication.emitsField then [.authentication] else []) ++
      (if login.backend = .odbc ∧ q.authentication.usesToken = true then [.accessToken]
        else []) := by
    rw [Mechanism.among, hcallAttributes, htoken]
    exact congrArg (· ++ _) hfields
  unfold ConnectionManager.connectionString Backend.connectionString at htext
  dsimp only at htext
  split_ifs at htext with hrefused
  refine ⟨hstring.trans (Except.ok.inj htext).symm, ?_⟩
  rw [hamong]
  -- with the flag validation leaves one mode only, and without it the mode decides
  cases hflag : q.windowsLogin with
  | true =>
    rw [Profile.authentication_of_validated h hflag]
    simp [AuthenticationMode.usesToken]
  | false =>
    cases hmode : q.authentication with
    | sql => exact absurd ⟨hflag, hmode⟩ hrefused
    | windowsLogin => simp [AuthenticationMode.usesToken, AuthenticationMode.emitsField]
    | _ =>
      cases login.backend <;> simp [AuthenticationMode.usesToken, AuthenticationMode.emitsField]

/-! ### With the flag and without -/

/-- A session with one driver, behind the driver manager, that accepts all connections. -/
def acceptingSession : Session Unit Unit where
  drivers := { odbc := some { script := {} } }
  world := ()

/-- An opening for a profile in the mode of service principals makes calls, and each of them says in
just one way who is signing in. -/
theorem mechanisms_of_principal :
    let p := Profile.new "warehouse.example" "sales" "dbo"
    let m : ConnectionManager := ⟨p, defaultApplicationName⟩
    let fields := Backend.odbc.fields (.ofProfile p defaultApplicationName none none)
    p.validated = .ok p ∧ ∃ calls,
      (m.openConnection bareServices (.new "master") acceptingSession).2.2.drivers.connectCalls
        .odbc = calls ∧ calls ≠ [] ∧
      ∀ call ∈ calls, (Mechanism.among fields call.attributes).length = 1 := by
  intro p m fields
  have hvalid : p.validated = .ok p := by decide
  obtain ⟨calls, hcalls, hone⟩ := mechanisms_of_validated hvalid bareServices
    defaultApplicationName (.new "master") acceptingSession .odbc
  refine ⟨hvalid, calls, hcalls, ?_, fun call hcall => ?_⟩
  · rintro rfl
    exact absurd hcalls (by decide)
  · exact ((hone call hcall).2.2.1 rfl).mpr (by decide)

/-- A profile that names integrated login as its mode and does not set the flag for it passes the
checks as it is, and an opening makes a call that says in no way who is signing in. -/
theorem no_mechanism_of_windowsLogin_without_flag :
    let p := (Profile.new "warehouse.example" "sales" "dbo").withAuthentication .windowsLogin
    let m : ConnectionManager := ⟨p, defaultApplicationName⟩
    let fields := Backend.odbc.fields (.ofProfile p defaultApplicationName none none)
    p.validated = .ok p ∧ p.authentication = .windowsLogin ∧ ∃ call,
      (m.openConnection bareServices (.new "master") acceptingSession).2.2.drivers.connectCalls
        .odbc = [call] ∧ call.connectionString = String.ofList (renderFields fields) ∧
      Mechanism.among fields call.attributes = [] :=
  ⟨by decide, rfl, _, rfl, rfl, by decide⟩

end WarehouseAccess
