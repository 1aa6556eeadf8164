import WarehouseAccess.Proofs.Connection.Boundary
import WarehouseAccess.Proofs.Connection.Views
import WarehouseAccess.Proofs.Token.Cache

/-!
# Logins

Opening a connection tries to sign in, perhaps more than once, and each try looks for its credential
anew.  A `Login` is one such try with the session as it found it; what it asked providers for, and
which calls to connect it led to, are read off there.

### Outline

* `ConnectionManager.logins` are the logins of an opening, and `Visit.loginsAlong` those of any uses
  of connections by managers that share what is remembered;
* `Session.NoLogin` says of everything else that it neither signs in nor touches the remembered
  token;
* `SignedIn` says that between two sessions just the given logins were tried: they account for all
  calls to connect, and the remembered token goes from each to the next.  `Visit.signedIn_after`
  shows it of every use of a connection.
-/

namespace WarehouseAccess

variable {σ τ : Type}

/-- One try to sign in. -/
structure Login (σ τ : Type) where
  manager : ConnectionManager
  backend : Backend
  /-- The connection string. -/
  text : String
  /-- The session as the try finds it. -/
  session : Session σ τ

namespace Login

variable (services : Services σ τ) (login : Login σ τ)

/-- The call by which the attributes of the login are found, with what providers were asked. -/
def inquiry : TokenStep σ :=
  services.authority.step (.preAuthAttributes login.manager.profile login.backend)
    login.session.tokens login.session.world

/-- What providers were asked, in order. -/
def asked : List TokenAsk := (login.inquiry services).asked

/-- The attributes that were found, or why there are none. -/
def attributes : Except AuthError LoginAttributes :=
  (services.authority.preAuthAttributes login.manager.profile login.backend login.session.tokens
    login.session.world).1

/-- How the try ended. -/
def attempted : Except ConnectionError Unit × Session σ τ :=
  login.manager.attempt services login.backend login.text login.session

/-- The calls to connect that the driver got during the try. -/
def calls : List ConnectCall :=
  ((login.attempted services).2.drivers.connectCalls login.backend).drop
    (login.session.drivers.connectCalls login.backend).length

/-- The call by which the attributes are found goes as recorded. -/
lemma preAuthAttributes_eq :
    services.authority.preAuthAttributes login.manager.profile login.backend login.session.tokens
        login.session.world =
      (login.attributes services, (login.inquiry services).cacheAfter,
        (login.inquiry services).worldAfter) := by
  have hstep := services.authority.step_eq_perform
    (.preAuthAttributes login.manager.profile login.backend) login.session.tokens
    login.session.world
  obtain ⟨-, hafter⟩ := Prod.mk.inj hstep
  exact Prod.ext rfl hafter.symm

/-- The call by which the attributes are found returns them. -/
lemma result_inquiry :
    (login.inquiry services).result = .attributes (login.attributes services) := by
  have hstep := services.authority.step_eq_perform
    (.preAuthAttributes login.manager.profile login.backend) login.session.tokens
    login.session.world
  exact (Prod.mk.inj hstep).1

/-- Without attributes the try ends before the driver is called. -/
lemma attempted_of_error {e : AuthError} (h : login.attributes services = .error e) :
    login.attempted services = (.error (.auth e),
      { login.session with
        tokens := (login.inquiry services).cacheAfter
        world := (login.inquiry services).worldAfter }) := by
  rw [attempted, ConnectionManager.attempt, preAuthAttributes_eq, h]

/-- With attributes the driver is called once, if there is one. -/
lemma attempted_of_ok {attributes : LoginAttributes}
    (h : login.attributes services = .ok attributes) :
    (login.attempted services).2 =
      { login.session with
        tokens := (login.inquiry services).cacheAfter
        world := (login.inquiry services).worldAfter
        drivers := (login.session.drivers.act login.backend
          (.error ConnectionManager.noDriver : Except DriverError Unit) fun d =>
            d.connect login.text login.manager.profile.loginTimeout.toNat true
              (login.backend.attributes attributes)).2 } := by
  rw [attempted, ConnectionManager.attempt, preAuthAttributes_eq, h]
  dsimp only [Session.act]
  split
  · next hact => exact (Prod.mk.inj hact).2.symm
  · next hact => exact (Prod.mk.inj hact).2.symm

end Login

namespace Drivers

/-- What a call to connect adds to the records of the drivers: one call if there is a driver, which
is made as it was asked for. -/
lemma connectCalls_act_connect (ds : Drivers) (b : Backend) (a : Except DriverError Unit)
    (text : String) (timeout : Nat) (autocommit : Bool) (attributes : LoginAttributes) :
    ∃ calls : List ConnectCall,
      (∀ call ∈ calls, call.connectionString = text ∧ call.attributes = attributes) ∧
      ∀ b', (ds.act b a fun d => d.connect text timeout autocommit attributes).2.connectCalls b' =
        ds.connectCalls b' ++ if b = b' then calls else [] := by
  cases hd : ds.get? b with
  | none =>
    refine ⟨[], by simp, fun b' => ?_⟩
    rw [act_of_get?_eq_none hd, ite_self, List.append_nil]
  | some d =>
    have hconnect : ∃ accepted,
        (d.connect text timeout autocommit attributes).2.record.connectCalls =
          d.record.connectCalls ++ [⟨text, timeout, autocommit, attributes, accepted⟩] := by
      unfold ScriptedDriver.connect
      split <;> exact ⟨_, rfl⟩
    obtain ⟨accepted, hcalls⟩ := hconnect
    refine ⟨[⟨text, timeout, autocommit, attributes, accepted⟩], by simp, fun b' => ?_⟩
    by_cases hb : b = b'
    · subst hb
      rw [act_of_get?_eq_some hd, connectCalls, viewOn_set_self, hcalls, if_pos rfl, connectCalls,
        viewOn_of_get? _ hd]
    · rw [if_neg hb, List.append_nil]
      exact viewOn_act_other _ ds a hb

end Drivers

namespace Login

variable (services : Services σ τ) (login : Login σ τ)

/-- The calls of a try are made with its text and its attributes, and no driver gets others. -/
lemma exists_calls : ∃ calls : List ConnectCall,
    (∀ call ∈ calls, call.connectionString = login.text ∧ ∃ attributes,
      login.attributes services = .ok attributes ∧
        call.attributes = login.backend.attributes attributes) ∧
    ∀ b, (login.attempted services).2.drivers.connectCalls b =
      login.session.drivers.connectCalls b ++ if login.backend = b then calls else [] := by
  cases h : login.attributes services with
  | error e =>
    refine ⟨[], by simp, fun b => ?_⟩
    rw [attempted_of_error services login h, ite_self, List.append_nil]
  | ok attributes =>
    obtain ⟨calls, hmade, hcalls⟩ := login.session.drivers.connectCalls_act_connect login.backend
      (.error ConnectionManager.noDriver) login.text login.manager.profile.loginTimeout.toNat true
      (login.backend.attributes attributes)
    refine ⟨calls, fun call hcall => ?_, fun b => ?_⟩
    · exact ⟨(hmade call hcall).1, attributes, rfl, (hmade call hcall).2⟩
    · rw [attempted_of_ok services login h]
      exact hcalls b

/-- A try adds its calls to the record of its driver, and nothing to that of the other. -/
lemma connectCalls_attempted (b : Backend) :
    (login.attempted services).2.drivers.connectCalls b =
      login.session.drivers.connectCalls b ++
        if login.backend = b then login.calls services else [] := by
  obtain ⟨calls, -, hcalls⟩ := login.exists_calls services
  have hself : login.calls services = calls := by
    rw [Login.calls, hcalls login.backend, if_pos rfl, List.drop_left]
  rw [hcalls b, hself]

/-- How a call of a try is made. -/
lemma of_mem_calls {call : ConnectCall} (h : call ∈ login.calls services) :
    call.connectionString = login.text ∧ ∃ attributes, login.attributes services = .ok attributes ∧
      call.attributes = login.backend.attributes attributes := by
  obtain ⟨calls, hmade, hcalls⟩ := login.exists_calls services
  rw [Login.calls, hcalls login.backend, if_pos rfl, List.drop_left] at h
  exact hmade call h

/-- Without attributes no driver is called. -/
lemma calls_of_error {e : AuthError} (h : login.attributes services = .error e) :
    login.calls services = [] := by
  rw [Login.calls, attempted_of_error services login h]
  exact List.drop_length

/-- What is remembered after a try is what finding the attributes leaves. -/
lemma tokens_attempted :
    (login.attempted services).2.tokens = (login.inquiry services).cacheAfter := by
  cases h : login.attributes services with
  | error e => rw [attempted_of_error services login h]
  | ok attributes => rw [attempted_of_ok services login h]

end Login

/-! ### Where nobody signs in -/

namespace Session

/-- From one session to another nobody tried to sign in. -/
structure NoLogin (s s' : Session σ τ) : Prop where
  /-- The same token is remembered. -/
  tokens : s'.tokens = s.tokens
  /-- No driver was asked for a connection. -/
  connectCalls : ∀ b, s'.drivers.connectCalls b = s.drivers.connectCalls b

namespace NoLogin

/-- Nothing happens between a session and itself. -/
lemma refl (s : Session σ τ) : s.NoLogin s := ⟨rfl, fun _ => rfl⟩

/-- One stretch after the other. -/
lemma trans {s s' s'' : Session σ τ} (h : s.NoLogin s') (h' : s'.NoLogin s'') : s.NoLogin s'' :=
  ⟨h'.tokens.trans h.tokens, fun b => (h'.connectCalls b).trans (h.connectCalls b)⟩

end NoLogin

/-- Pausing signs in nowhere. -/
lemma noLogin_pause (s : Session σ τ) (d : Duration) : s.NoLogin (s.pause d) := ⟨rfl, fun _ => rfl⟩

/-- Choosing a backend signs in nowhere. -/
lemma noLogin_backendFor (s : Session σ τ) (p : Profile) : s.NoLogin (s.backendFor p).2 := by
  refine ⟨?_, (s.quiet_backendFor p).connectCalls⟩
  unfold backendFor
  split
  · rfl
  · unfold settlePooling
    split <;> rfl

/-- Beginning the life of a run signs in nowhere. -/
lemma noLogin_startLifecycle (s : Session σ τ) (services : Services σ τ) (p : Profile) :
    s.NoLogin (s.startLifecycle services p) := by
  unfold startLifecycle
  split <;> exact ⟨rfl, fun _ => rfl⟩

end Session

namespace ScriptedDriver

/-- Rolling back is no call to connect. -/
lemma connectCalls_rollback (d : ScriptedDriver) :
    d.rollback.2.record.connectCalls = d.record.connectCalls := by
  unfold rollback
  split <;> rfl

/-- Closing is no call to connect. -/
lemma connectCalls_close (d : ScriptedDriver) :
    d.close.2.record.connectCalls = d.record.connectCalls := by
  unfold close
  split <;> rfl

end ScriptedDriver

namespace ConnectionManager

open ScriptedDriver

/-- Behind the boundary around statements nobody signs in unless the action does. -/
lemma noLogin_withBoundary {α : Type} (m : ConnectionManager) (c : Connection) (s : Session σ τ)
    {action : Backend → Connection → Session σ τ →
      Except ConnectionError α × Connection × Session σ τ}
    (haction : ∀ b c s', Session.NoLogin s' (action b c s').2.2) :
    s.NoLogin (m.withBoundary c s action).2.2 := by
  have hbackend := s.noLogin_backendFor m.profile
  unfold withBoundary
  rcases hs : s.backendFor m.profile with ⟨outcome, s₁⟩
  rw [hs] at hbackend
  cases outcome with
  | error e => exact hbackend
  | ok b =>
    have hdone := hbackend.trans (haction b c s₁)
    dsimp only
    rcases ha : action b c s₁ with ⟨outcome, c', s₂⟩
    rw [ha] at hdone
    cases outcome with
    | ok value => exact hdone
    | error e =>
      exact hdone.trans
        ⟨rfl, viewOn_settle connectCalls_rollback connectCalls_close e c' s₂.drivers⟩

/-- Carrying out a statement signs in nowhere. -/
lemma noLogin_runStatement (m : ConnectionManager) (sql : String)
    (bindings : Option (List SqlValue)) (b : Backend) (c : Connection) (s : Session σ τ) :
    s.NoLogin (m.runStatement sql bindings b c s).2.2 := by
  refine ⟨?_, (m.quiet_runStatement sql bindings b c s).connectCalls⟩
  unfold runStatement
  split
  · rfl
  · dsimp only
    split <;> rfl

/-- Carrying out a statement and collecting signs in nowhere. -/
lemma noLogin_runAndCollect (m : ConnectionManager) (sql : String) (fetch : Bool)
    (limit : Option Nat) (b : Backend) (c : Connection) (s : Session σ τ) :
    s.NoLogin (m.runAndCollect sql fetch limit b c s).2.2 := by
  refine ⟨?_, (m.quiet_runAndCollect sql fetch limit b c s).connectCalls⟩
  have htokens := (m.noLogin_runStatement sql none b c s).tokens
  unfold runAndCollect
  rcases hr : m.runStatement sql none b c s with ⟨outcome, c', s'⟩
  rw [hr] at htokens
  cases outcome with
  | error e => exact htokens
  | ok q => exact htokens

/-! ### The logins of an opening -/

/-- The sessions in which the tries of a manager to connect to a backend begin. -/
def tryStarts (m : ConnectionManager) (services : Services σ τ) (b : Backend) (text : String)
    (s : Session σ τ) : List (Session σ τ) :=
  (RetryPolicy.new m.profile.retries.toNat retryInterval).starts (ConnectionError.isRetryable b)
    Session.pause (fun _ => m.attempt services b text) s

/-- The tries to sign in that connecting makes. -/
def logins (m : ConnectionManager) (services : Services σ τ) (s : Session σ τ) :
    List (Login σ τ) :=
  match s.backendFor m.profile with
  | (.error _, _) => []
  | (.ok b, s) =>
    match m.connectionString b with
    | .error _ => []
    | .ok text => (m.tryStarts services b text s).map (Login.mk m b text)

/-- Every login of an opening is the manager's own, with its connection string for the backend. -/
lemma of_mem_logins {m : ConnectionManager} {services : Services σ τ} {s : Session σ τ}
    {login : Login σ τ} (h : login ∈ m.logins services s) :
    login.manager = m ∧ m.connectionString login.backend = .ok login.text := by
  unfold logins at h
  split at h
  · simp at h
  · split at h
    · simp at h
    · next htext =>
      obtain ⟨s', -, rfl⟩ := List.mem_map.mp h
      exact ⟨rfl, htext⟩

end ConnectionManager

/-- The tries to sign in that a use of a connection makes. -/
def ConnectionUse.logins (services : Services σ τ) (c : Connection) (s : Session σ τ) :
    ConnectionUse → List (Login σ τ)
  | openBy m => if c.isOpen then [] else m.logins services s
  | _ => []

/-- A use of a connection.  Managers that share what is remembered need not share anything else, so
each visit has a session of its own. -/
structure Visit (σ τ : Type) where
  connection : Connection
  session : Session σ τ
  use : ConnectionUse

namespace Visit

variable (services : Services σ τ)

/-- The session as the visit finds it. -/
def found (v : Visit σ τ) (tokens : TokenCache) : Session σ τ := { v.session with tokens }

/-- The session after the visit. -/
def after (v : Visit σ τ) (tokens : TokenCache) : Session σ τ :=
  (v.use.perform services v.connection (v.found tokens)).2.2

/-- The tries to sign in that the visit makes. -/
def logins (v : Visit σ τ) (tokens : TokenCache) : List (Login σ τ) :=
  v.use.logins services v.connection (v.found tokens)

/-- The tries to sign in that visits make, where each finds remembered what the one before left. -/
def loginsAlong : TokenCache → List (Visit σ τ) → List (Login σ τ)
  | _, [] => []
  | tokens, v :: rest =>
    v.logins services tokens ++ loginsAlong (v.after services tokens).tokens rest

end Visit

/-! ### What logins account for -/

/-- The remembered token goes from login to login: each finds what the one before it left. -/
def TokensAlong (services : Services σ τ) : TokenCache → List (Login σ τ) → TokenCache → Prop
  | cache, [], cache' => cache' = cache
  | cache, login :: rest, cache' =>
    login.session.tokens = cache ∧
      TokensAlong services (login.inquiry services).cacheAfter rest cache'

/-- The remembered token goes along two lists of logins if it goes along one and then the other. -/
lemma tokensAlong_append {services : Services σ τ} {cache cache' : TokenCache}
    {first second : List (Login σ τ)} :
    TokensAlong services cache (first ++ second) cache' ↔
      ∃ between, TokensAlong services cache first between ∧
        TokensAlong services between second cache' := by
  induction first generalizing cache with
  | nil => simp [TokensAlong]
  | cons login first ih => simp only [List.cons_append, TokensAlong, ih, and_assoc, exists_and_left]

/-- From one session to another just these logins were tried, one after the other. -/
structure SignedIn (services : Services σ τ) (s : Session σ τ) (logins : List (Login σ τ))
    (s' : Session σ τ) : Prop where
  /-- The drivers got the calls of the logins and no others. -/
  connectCalls : ∀ b, s'.drivers.connectCalls b = s.drivers.connectCalls b ++
    (logins.filter fun login => login.backend == b).flatMap fun login => login.calls services
  /-- The remembered token goes along the logins. -/
  tokens : TokensAlong services s.tokens logins s'.tokens

namespace SignedIn

variable {services : Services σ τ} {s s' s'' : Session σ τ} {first second : List (Login σ τ)}

/-- Where nobody signed in there are no logins. -/
lemma of_noLogin (h : s.NoLogin s') : SignedIn services s [] s' :=
  ⟨fun b => by simpa using h.connectCalls b, h.tokens⟩

/-- Logins one after the other. -/
lemma append (h : SignedIn services s first s') (h' : SignedIn services s' second s'') :
    SignedIn services s (first ++ second) s'' := by
  refine ⟨fun b => ?_, tokensAlong_append.mpr ⟨_, h.tokens, h'.tokens⟩⟩
  rw [h'.connectCalls, h.connectCalls, List.append_assoc, List.filter_append, List.flatMap_append]

/-- Logins, and then nothing of the kind. -/
lemma noLogin (h : SignedIn services s first s') (h' : s'.NoLogin s'') :
    SignedIn services s first s'' := by
  simpa using h.append (of_noLogin h')

/-- Where all logins are on one backend, no other driver got a call. -/
lemma connectCalls_of_backend (h : SignedIn services s first s') {b : Backend}
    (hfirst : ∀ login ∈ first, login.backend = b) (b' : Backend) :
    s'.drivers.connectCalls b' = s.drivers.connectCalls b' ++
      if b = b' then first.flatMap fun login => login.calls services else [] := by
  rw [h.connectCalls]
  by_cases hb : b = b'
  · have hall : (first.filter fun login => login.backend == b') = first :=
      List.filter_eq_self.mpr fun login hlogin => by rw [hfirst login hlogin, hb, beq_self_eq_true]
    rw [hall, if_pos hb]
  · have hnone : (first.filter fun login => login.backend == b') = [] :=
      List.filter_eq_nil_iff.mpr fun login hlogin => by simp [hfirst login hlogin, hb]
    rw [hnone, if_neg hb, List.flatMap_nil]

/-- Nothing of the kind, and then logins. -/
lemma after (h : SignedIn services s' first s'') (h' : s.NoLogin s') :
    SignedIn services s first s'' :=
  (of_noLogin h').append h

end SignedIn

/-- One try is one login. -/
lemma signedIn_attempted (services : Services σ τ) (login : Login σ τ) :
    SignedIn services login.session [login] (login.attempted services).2 := by
  refine ⟨fun b => ?_, rfl, login.tokens_attempted services⟩
  rw [login.connectCalls_attempted services b]
  by_cases hb : login.backend = b
  · simp [hb]
  · simp [hb]

namespace ConnectionManager

/-- Trying to connect is to log in where each try begins. -/
lemma signedIn_tries (m : ConnectionManager) (services : Services σ τ) (b : Backend)
    (text : String) (s : Session σ τ) :
    SignedIn services s ((m.tryStarts services b text s).map (Login.mk m b text))
      (m.tries services b text s).2 := by
  refine RetryPolicy.starts_induction (ConnectionError.isRetryable b)
    (fun _ => m.attempt services b text)
    (fun s starts final => SignedIn services s (starts.map (Login.mk m b text)) final.2) _ _ ?_ ?_ s
  · intro _ s'
    exact signedIn_attempted services ⟨m, b, text, s'⟩
  · intro _ s' _ _ _ _ _ hrest
    exact ((signedIn_attempted services ⟨m, b, text, s'⟩).noLogin
      (Session.noLogin_pause _ retryInterval)).append hrest

/-- Connecting tries just its logins. -/
lemma signedIn_connect (m : ConnectionManager) (services : Services σ τ) (s : Session σ τ) :
    SignedIn services s (m.logins services s) (m.connect services s).2 := by
  have hchosen := s.noLogin_backendFor m.profile
  have hconnects := m.connects_connect services s
  generalize m.connect services s = result at hconnects ⊢
  unfold logins
  cases hconnects with
  | noBackend hbackend =>
    rw [hbackend] at hchosen ⊢
    exact .of_noLogin hchosen
  | noText hbackend htext =>
    rw [hbackend] at hchosen ⊢
    simp only [htext]
    exact .of_noLogin hchosen
  | @failed b s₁ _ text _ hbackend htext htries =>
    rw [hbackend] at hchosen ⊢
    simp only [htext]
    have htried := m.signedIn_tries services b text s₁
    rw [htries] at htried
    exact htried.after hchosen
  | @connected b s₁ s₂ text hbackend htext htries =>
    rw [hbackend] at hchosen ⊢
    simp only [htext]
    have htried := m.signedIn_tries services b text s₁
    rw [htries] at htried
    -- telling the driver the query timeout is no login
    have hset : s₂.NoLogin (s₂.act b () fun d =>
        ((), d.setQueryTimeout m.profile.queryTimeout.toNat)).2 :=
      ⟨rfl, (s₂.quiet_setQueryTimeout b _).connectCalls⟩
    exact (htried.noLogin hset).after hchosen

/-- Opening tries just the logins of connecting, and none when the connection is open already. -/
lemma signedIn_openConnection (m : ConnectionManager) (services : Services σ τ) (c : Connection)
    (s : Session σ τ) :
    SignedIn services s (if c.isOpen then [] else m.logins services s)
      (m.openConnection services c s).2.2 := by
  cases hopen : c.isOpen with
  | true =>
    rw [openConnection_of_isOpen hopen]
    exact .of_noLogin (.refl s)
  | false =>
    have hconnect := m.signedIn_connect services s
    rcases hm : m.connect services s with ⟨outcome, s'⟩
    rw [hm] at hconnect
    cases outcome with
    | error e =>
      rw [openConnection_of_connect_error hopen hm]
      exact hconnect
    | ok handle =>
      rw [openConnection_of_connect_ok hopen hm]
      exact hconnect.noLogin (s'.noLogin_startLifecycle services m.profile)

end ConnectionManager

/-- A use of a connection tries just its logins. -/
lemma ConnectionUse.signedIn_perform (services : Services σ τ) (c : Connection) (s : Session σ τ)
    (use : ConnectionUse) :
    SignedIn services s (use.logins services c s) (use.perform services c s).2.2 := by
  cases use with
  | openBy m => exact m.signedIn_openConnection services c s
  | addQuery m sql bindings =>
    exact .of_noLogin (m.noLogin_withBoundary c s (m.noLogin_runStatement sql bindings))
  | execute m sql fetch limit =>
    have hdone := m.noLogin_withBoundary c s (m.noLogin_runAndCollect sql fetch limit)
    rw [← m.execute_eq_withBoundary] at hdone
    exact .of_noLogin hdone
  | releaseByManager =>
    exact .of_noLogin ⟨rfl, ConnectionManager.viewOn_release ScriptedDriver.connectCalls_rollback
      ScriptedDriver.connectCalls_close c s.drivers⟩
  | release =>
    exact .of_noLogin ⟨rfl, c.viewOn_release ScriptedDriver.connectCalls_close s.drivers⟩
  | rollback =>
    exact .of_noLogin ⟨rfl, c.viewOn_rollback ScriptedDriver.connectCalls_rollback s.drivers⟩

namespace Visit

/-- A visit tries just its logins. -/
lemma signedIn_after (services : Services σ τ) (v : Visit σ τ) (tokens : TokenCache) :
    SignedIn services (v.found tokens) (v.logins services tokens) (v.after services tokens) :=
  v.use.signedIn_perform services v.connection (v.found tokens)

/-- The remembered token goes along the logins of visits. -/
lemma tokensAlong_loginsAlong (services : Services σ τ) (tokens : TokenCache)
    (visits : List (Visit σ τ)) :
    ∃ tokens', TokensAlong services tokens (loginsAlong services tokens visits) tokens' := by
  induction visits generalizing tokens with
  | nil => exact ⟨tokens, rfl⟩
  | cons v visits ih =>
    obtain ⟨tokens', hrest⟩ := ih (v.after services tokens).tokens
    exact ⟨tokens', tokensAlong_append.mpr ⟨_, (v.signedIn_after services tokens).tokens, hrest⟩⟩

end Visit

end WarehouseAccess
