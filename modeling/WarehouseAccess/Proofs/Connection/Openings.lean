import WarehouseAccess.Proofs.Connection.Memory

/-!
# How openings go

Opening a connection tries to connect, at most as often as the profile says, with a second between
two tries.

### Outline

* `ConnectionManager.Tried` says how tries follow one another, what each asks of the driver and when
  there is no other; `tried_tries` shows it of the tries of a manager;
* `ConnectionManager.OpeningEnd` lists the ways in which the opening of a connection can end, with
  what it leaves of the connection and what drivers were asked;
* `Workplace.tries_of_opening` puts it together for connections that were used before in any way.
  That the backend has a driver comes from `Session.Remembers`, that a connection that failed has no
  handle from `Connection.Settled`.
-/

namespace WarehouseAccess

variable {σ τ : Type}

/-! ### One try -/

/-- How long queries may take, as the driver of a backend was told it, each time that it was. -/
def Drivers.queryTimeouts (ds : Drivers) (b : Backend) : List Nat :=
  ds.viewOn (fun d => d.record.queryTimeouts) b

namespace Login

variable (services : Services σ τ) (login : Login σ τ)

/-- With its attributes a login is one call to connect, and ends as the driver answers. -/
lemma calls_of_ok {attributes : LoginAttributes} {d : ScriptedDriver}
    (hd : login.session.drivers.get? login.backend = some d)
    (h : login.attributes services = .ok attributes) :
    let answer := (d.connect login.text login.manager.profile.loginTimeout.toNat true
      (login.backend.attributes attributes)).1
    login.calls services = [⟨login.text, login.manager.profile.loginTimeout.toNat, true,
        login.backend.attributes attributes, answer.isOk⟩] ∧
      (login.attempted services).1 = answer.mapError .driver := by
  let called := d.connect login.text login.manager.profile.loginTimeout.toNat true
    (login.backend.attributes attributes)
  have hdrivers : (login.attempted services).2.drivers =
      login.session.drivers.set login.backend called.2 := by
    rw [login.attempted_of_ok services h]
    exact congrArg Prod.snd (Drivers.act_of_get?_eq_some hd _ _)
  have hcalls : login.calls services =
      called.2.record.connectCalls.drop d.record.connectCalls.length := by
    rw [Login.calls, hdrivers, Drivers.connectCalls, Drivers.viewOn_of_get? _ hd,
      Drivers.connectCalls, Drivers.viewOn_set_self]
  rw [hcalls, attempted, ConnectionManager.attempt, preAuthAttributes_eq, h]
  simp only [Session.act, Drivers.act, hd, called]
  -- the driver records the call, whether it refuses the connection or not
  unfold ScriptedDriver.connect
  cases d.script.connectFailures with
  | nil => exact ⟨by simp [Except.isOk, Except.toBool], rfl⟩
  | cons e rest => exact ⟨by simp [Except.isOk, Except.toBool], rfl⟩

/-- Where the driver is installed, a login without attributes ends there and calls nobody, and every
other one is one call to connect. -/
lemma made_of_installed (hdriver : (login.session.drivers.get? login.backend).isSome) :
    match login.attributes services with
    | .error e => login.calls services = [] ∧ (login.attempted services).1 = .error (.auth e)
    | .ok attributes => ∃ d, login.session.drivers.get? login.backend = some d ∧
      let answer := (d.connect login.text login.manager.profile.loginTimeout.toNat true
        (login.backend.attributes attributes)).1
      login.calls services = [⟨login.text, login.manager.profile.loginTimeout.toNat, true,
          login.backend.attributes attributes, answer.isOk⟩] ∧
        (login.attempted services).1 = answer.mapError .driver := by
  cases h : login.attributes services with
  | error e =>
    exact ⟨login.calls_of_error services h,
      congrArg Prod.fst (login.attempted_of_error services h)⟩
  | ok attributes =>
    obtain ⟨d, hd⟩ := Option.isSome_iff_exists.mp hdriver
    exact ⟨d, hd, login.calls_of_ok services hd h⟩

end Login

namespace ConnectionManager

section Attempt

variable (m : ConnectionManager) (services : Services σ τ) (b : Backend) (text : String)
  (s : Session σ τ)

/-- A try installs and removes no driver. -/
lemma installed_attempt (b' : Backend) :
    ((m.attempt services b text s).2.drivers.get? b').isSome = (s.drivers.get? b').isSome := by
  have hattempted := m.attempted_attempt services b text s
  rcases hm : m.attempt services b text s with ⟨outcome, s'⟩
  rw [hm] at hattempted
  cases outcome with
  | error e => exact hattempted.installed b'
  | ok value => exact hattempted.1.installed b'

/-- A try makes no pause. -/
lemma pauses_attempt : (m.attempt services b text s).2.pauses = s.pauses := by
  obtain ⟨_, _, _, hattempt⟩ := m.exists_attempt_eq services b text s
  rw [hattempt]

end Attempt

/-! ### The tries of an opening -/

/-- An error is worth another try to connect just when it is an error of the driver that is worth it
for the backend. -/
lemma isRetryable_iff (b : Backend) (e : ConnectionError) :
    e.isRetryable b = true ↔ ∃ d, e = .driver d ∧ b.isRetryable d = true := by
  cases e with
  | driver d => simp [ConnectionError.isRetryable, ConnectionError.driverError?]
  | _ => simp [ConnectionError.isRetryable, ConnectionError.driverError?]

section Tries

variable (m : ConnectionManager) (services : Services σ τ) (b : Backend) (text : String)
  (s : Session σ τ)

/-- The tries follow one another, a second apart. -/
lemma course_tries :
    RetryPolicy.Course (ConnectionError.isRetryable b) (Session.pause (.ofSecs 1))
      (fun _ => m.attempt services b text) (max m.profile.retries.toNat 1) 1 s
      (m.tryStarts services b text s) (m.tries services b text s) :=
  RetryPolicy.course_starts (RetryPolicy.new m.profile.retries.toNat retryInterval)
    (Nat.le_max_right _ _) (ConnectionError.isRetryable b) Session.pause
    (fun _ => m.attempt services b text) s

/-- Every try finds the drivers installed that the first one finds. -/
lemma isSome_get?_of_mem_tryStarts (hdriver : (s.drivers.get? b).isSome) :
    ∀ start ∈ m.tryStarts services b text s, (start.drivers.get? b).isSome := by
  refine RetryPolicy.starts_induction (ConnectionError.isRetryable b)
    (fun _ => m.attempt services b text)
    (fun s starts _ => (s.drivers.get? b).isSome → ∀ start ∈ starts, (start.drivers.get? b).isSome)
    (RetryPolicy.new m.profile.retries.toNat retryInterval) Session.pause ?_ ?_ s hdriver
  · intro _ s' hs' start hstart
    rwa [List.mem_singleton.mp hstart]
  · intro _ s' _ starts _ _ _ hrest hs' start hstart
    rcases List.mem_cons.mp hstart with rfl | hstart
    · exact hs'
    · refine hrest ?_ start hstart
      exact (m.installed_attempt services b text s' b).trans hs'

/-- A try with another one behind it fails with an error of the driver that is worth it, and the
next one begins a second later. -/
lemma again_tries {i : ℕ} (h : i + 1 < (m.tryStarts services b text s).length) :
    ∃ d s'', m.attempt services b text (m.tryStarts services b text s)[i] =
        (.error (.driver d), s'') ∧ b.isRetryable d = true ∧
      (m.tryStarts services b text s)[i + 1] = s''.pause (.ofSecs 1) := by
  obtain ⟨e, s'', hfails, hretry, hnext⟩ := (m.course_tries services b text s).again i h
  obtain ⟨d, rfl, hd⟩ := (isRetryable_iff b e).mp hretry
  exact ⟨d, s'', hfails, hd, hnext⟩

/-- Trying ends with an error of the driver when that is not worth another try, or when there may be
none. -/
lemma ended_tries {d : DriverError} (h : (m.tries services b text s).1 = .error (.driver d)) :
    b.isRetryable d = false ∨
      (m.tryStarts services b text s).length = max m.profile.retries.toNat 1 := by
  refine ((m.course_tries services b text s).ended _ h).imp_left fun hretry => ?_
  refine Bool.eq_false_iff.mpr fun hd => ?_
  rw [(isRetryable_iff b (.driver d)).mpr ⟨d, rfl, hd⟩] at hretry
  cases hretry

/-- There is one pause between every two tries. -/
lemma pauses_tries :
    (m.tries services b text s).2.pauses = s.pauses ++
      List.replicate ((m.tryStarts services b text s).length - 1) (.ofSecs 1) :=
  RetryPolicy.view_run Session.pauses retryInterval
    (RetryPolicy.new m.profile.retries.toNat retryInterval) (ConnectionError.isRetryable b)
    (fun _ s' => m.pauses_attempt services b text s')
    (fun s' => (rfl : (s'.pause retryInterval).pauses = s'.pauses ++ [retryInterval])) s

/-- While it is tried to connect no driver is told how long queries may take. -/
lemma queryTimeouts_tries (b' : Backend) :
    (m.tries services b text s).2.drivers.queryTimeouts b' = s.drivers.queryTimeouts b' := by
  have hconnect (d : ScriptedDriver) (text : String) (timeout : Nat) (autocommit : Bool)
      (attributes : LoginAttributes) :
      (d.connect text timeout autocommit attributes).2.record.queryTimeouts =
        d.record.queryTimeouts := by
    unfold ScriptedDriver.connect
    split <;> rfl
  exact m.viewOn_tries hconnect services b text s b'

end Tries

/-- How a manager tries to connect to a backend: the logins, from the session that they find to the
one that they leave, and their outcome. -/
structure Tried (m : ConnectionManager) (services : Services σ τ) (b : Backend) (text : String)
    (s : Session σ τ) (logins : List (Login σ τ)) (outcome : Except ConnectionError Unit)
    (s' : Session σ τ) : Prop where
  /-- All logins are of this manager, and for one backend and connection string. -/
  own : ∀ login ∈ logins, login.manager = m ∧ login.backend = b ∧ login.text = text
  /-- A login that finds no attributes ends there, and calls no driver.  Every other login is one
  call to connect, with the connection string, the login timeout of the profile and autocommit, and
  ends as the driver answers. -/
  made : ∀ login ∈ logins, match login.attributes services with
    | .error e => login.calls services = [] ∧ (login.attempted services).1 = .error (.auth e)
    | .ok attributes => ∃ d, login.session.drivers.get? b = some d ∧
      let answer := (d.connect text m.profile.loginTimeout.toNat true (b.attributes attributes)).1
      login.calls services =
          [⟨text, m.profile.loginTimeout.toNat, true, b.attributes attributes, answer.isOk⟩] ∧
        (login.attempted services).1 = answer.mapError .driver
  /-- The drivers get the calls of the logins and no others. -/
  connectCalls : ∀ b', s'.drivers.connectCalls b' = s.drivers.connectCalls b' ++
    if b = b' then logins.flatMap fun login => login.calls services else []
  /-- The first login begins where all of them begin. -/
  head : (logins.map Login.session).head? = some s
  /-- There are as many logins at most as the profile says, and one in any case. -/
  length_le : logins.length ≤ max m.profile.retries.toNat 1
  /-- Every login but the last fails with an error of the driver that is worth another one for the
  backend.  Then comes a pause of a second, and then the next. -/
  again : ∀ i (h : i + 1 < logins.length), ∃ d s'',
    logins[i].attempted services = (.error (.driver d), s'') ∧ b.isRetryable d = true ∧
      logins[i + 1].session = s''.pause (.ofSecs 1)
  /-- The last login decides. -/
  last : ∀ i (h : i + 1 = logins.length), logins[i].attempted services = (outcome, s')
  /-- When it fails with an error of the driver, that is not worth another one, or there may be
  none. -/
  ended : ∀ d, outcome = .error (.driver d) →
    b.isRetryable d = false ∨ logins.length = max m.profile.retries.toNat 1
  /-- There is one pause between every two logins. -/
  pauses : s'.pauses = s.pauses ++ List.replicate (logins.length - 1) (.ofSecs 1)
  /-- No driver is told how long queries may take. -/
  queryTimeouts : ∀ b', s'.drivers.queryTimeouts b' = s.drivers.queryTimeouts b'

/-- Trying to connect goes through the logins that begin where its tries begin. -/
lemma tried_tries (m : ConnectionManager) (services : Services σ τ) (b : Backend) (text : String)
    (s : Session σ τ) (hdriver : (s.drivers.get? b).isSome) :
    m.Tried services b text s ((m.tryStarts services b text s).map (Login.mk m b text))
      (m.tries services b text s).1 (m.tries services b text s).2 := by
  have hcourse := m.course_tries services b text s
  have hown : ∀ login ∈ (m.tryStarts services b text s).map (Login.mk m b text),
      login.manager = m ∧ login.backend = b ∧ login.text = text := by
    intro login hlogin
    obtain ⟨start, -, rfl⟩ := List.mem_map.mp hlogin
    exact ⟨rfl, rfl, rfl⟩
  constructor
  case own => exact hown
  -- what holds of every login by itself
  case made =>
    intro login hlogin
    obtain ⟨start, hstart, rfl⟩ := List.mem_map.mp hlogin
    exact Login.made_of_installed services ⟨m, b, text, start⟩
      (m.isSome_get?_of_mem_tryStarts services b text s hdriver start hstart)
  case connectCalls =>
    exact (m.signedIn_tries services b text s).connectCalls_of_backend fun login hlogin =>
      (hown login hlogin).2.1
  -- how the logins follow one another: as the sessions do in which they begin
  case head =>
    rw [List.map_map, show Login.session ∘ Login.mk m b text = id from rfl, List.map_id]
    exact hcourse.head
  case length_le =>
    rw [List.length_map]
    exact hcourse.length_le
  case again =>
    intro i hi
    rw [List.length_map] at hi
    rw [List.getElem_map, List.getElem_map]
    exact m.again_tries services b text s hi
  case last =>
    intro i hi
    rw [List.length_map] at hi
    rw [List.getElem_map]
    exact hcourse.last i hi
  case ended =>
    intro d hd
    rw [List.length_map]
    exact m.ended_tries services b text s hd
  case pauses =>
    rw [List.length_map]
    exact m.pauses_tries services b text s
  case queryTimeouts => exact m.queryTimeouts_tries services b text s

end ConnectionManager

/-! ### The ends of an opening -/

/-- The connection after an opening that failed. -/
def Connection.failed (c : Connection) : Connection := { c with state := .failed, handle := none }

namespace Session

/-- No driver was called to connect or told how long queries may take, and no pause was made. -/
structure Idle (s s' : Session σ τ) : Prop where
  /-- No driver was called to connect. -/
  connectCalls : ∀ b, s'.drivers.connectCalls b = s.drivers.connectCalls b
  /-- No driver was told how long queries may take. -/
  queryTimeouts : ∀ b, s'.drivers.queryTimeouts b = s.drivers.queryTimeouts b
  /-- No pause was made. -/
  pauses : s'.pauses = s.pauses

/-- Choosing a backend is idle. -/
lemma idle_backendFor (s : Session σ τ) (p : Profile) : s.Idle (s.backendFor p).2 where
  connectCalls := (s.quiet_backendFor p).connectCalls
  queryTimeouts := s.viewOn_backendFor (fun _ _ _ => rfl) p
  pauses := s.pauses_backendFor p

/-- The driver of a backend was told how long queries may take, once, and nothing else was asked. -/
structure Timed (b : Backend) (seconds : Nat) (s s' : Session σ τ) : Prop where
  /-- No driver was called to connect. -/
  connectCalls : ∀ b', s'.drivers.connectCalls b' = s.drivers.connectCalls b'
  /-- One driver was told how long queries may take. -/
  queryTimeouts : ∀ b', s'.drivers.queryTimeouts b' = s.drivers.queryTimeouts b' ++
    if b = b' then [seconds] else []
  /-- No pause was made. -/
  pauses : s'.pauses = s.pauses

/-- A driver that is there gets to know how long queries may take, and then the life of the run may
begin. -/
lemma timed_startLifecycle (s : Session σ τ) (services : Services σ τ) (p : Profile) (b : Backend)
    (seconds : Nat) (hdriver : (s.drivers.get? b).isSome) :
    Timed b seconds s ((s.act b () fun d => ((), d.setQueryTimeout seconds)).2.startLifecycle
      services p) := by
  have hquiet := s.quiet_setQueryTimeout b seconds
  -- beginning the life of the run leaves the drivers and pauses as they are, so the telling is all
  have htold (b' : Backend) :
      (s.act b () fun d => ((), d.setQueryTimeout seconds)).2.drivers.queryTimeouts b' =
        s.drivers.queryTimeouts b' ++ if b = b' then [seconds] else [] := by
    obtain ⟨d, hd⟩ := Option.isSome_iff_exists.mp hdriver
    dsimp only [Session.act]
    by_cases hb : b = b'
    · subst hb
      rw [Drivers.act_of_get?_eq_some hd, Drivers.queryTimeouts, Drivers.viewOn_set_self,
        Drivers.queryTimeouts, Drivers.viewOn_of_get? _ hd, if_pos rfl]
      rfl
    · rw [if_neg hb, List.append_nil]
      exact Drivers.viewOn_act_other _ s.drivers () hb
  have hpauses (s' : Session σ τ) : (s'.startLifecycle services p).pauses = s'.pauses := by
    unfold startLifecycle
    split <;> rfl
  constructor
  case connectCalls =>
    intro b'
    rw [ConnectionManager.drivers_startLifecycle]
    exact hquiet.connectCalls b'
  case queryTimeouts =>
    intro b'
    rw [ConnectionManager.drivers_startLifecycle]
    exact htold b'
  case pauses => exact hpauses _

end Session

namespace ConnectionManager

/-- The ways in which the opening of a connection that is not open can end: what it returns, what
becomes of the connection, and what it leaves of the session. -/
inductive OpeningEnd (m : ConnectionManager) (services : Services σ τ) (c : Connection)
    (s : Session σ τ) : Except ConnectionError Unit → Connection → Session σ τ → Prop
  /-- No backend can be had. -/
  | noBackend {e : BackendError} {s₁ : Session σ τ}
    (hbackend : s.backendFor m.profile = (.error (.backend e), s₁)) (hidle : s.Idle s₁) :
    OpeningEnd m services c s (.error (.backend e)) c.failed s₁
  /-- The profile has no connection string for the backend. -/
  | noText {b : Backend} {e : DriverError} {s₁ : Session σ τ}
    (hbackend : s.backendFor m.profile = (.ok b, s₁)) (htext : m.connectionString b = .error e)
    (hidle : s.Idle s₁) : OpeningEnd m services c s (.error (.driver e)) c.failed s₁
  /-- The last try fails, and its error is returned as it is. -/
  | failed {b : Backend} {text : String} {logins : List (Login σ τ)} {e : ConnectionError}
    {s₁ s₂ : Session σ τ} (hbackend : s.backendFor m.profile = (.ok b, s₁))
    (htext : m.connectionString b = .ok text) (hidle : s.Idle s₁)
    (htried : m.Tried services b text s₁ logins (.error e) s₂) :
    OpeningEnd m services c s (.error e) c.failed s₂
  /-- The last try succeeds, and then the driver is told how long queries may take. -/
  | opened {b : Backend} {text : String} {logins : List (Login σ τ)} {s₁ s₂ s₃ : Session σ τ}
    (hbackend : s.backendFor m.profile = (.ok b, s₁)) (htext : m.connectionString b = .ok text)
    (hidle : s.Idle s₁) (htried : m.Tried services b text s₁ logins (.ok ()) s₂)
    (htimed : s₂.Timed b m.profile.queryTimeout.toNat s₃) :
    OpeningEnd m services c s (.ok ()) (c.attach ⟨b, m.profile.queryTimeout.toNat⟩) s₃

/-- Opening a connection without a handle ends in one of these ways. -/
lemma openingEnd_openConnection (m : ConnectionManager) (services : Services σ τ) {c : Connection}
    {s : Session σ τ} (hs : s.Remembers) (hopen : c.isOpen = false) (hnone : c.handle = none) :
    m.OpeningEnd services c s (m.openConnection services c s).1
      (m.openConnection services c s).2.1 (m.openConnection services c s).2.2 := by
  have hidle := s.idle_backendFor m.profile
  have hdriver := (hs.backendFor m.profile).2
  -- a connection without a handle has none after it failed
  have hfailed : ({ c with state := .failed } : Connection) = c.failed := by
    rw [Connection.failed, ← hnone]
  have hconnects := m.connects_connect services s
  generalize hm : m.connect services s = result at hconnects
  cases hconnects with
  | noBackend hbackend =>
    obtain ⟨⟨e, rfl⟩, -⟩ := eq_backend_of_backendFor hbackend
    rw [hbackend] at hidle
    rw [openConnection_of_connect_error hopen hm, hfailed]
    exact .noBackend hbackend hidle
  | noText hbackend htext =>
    rw [hbackend] at hidle
    rw [openConnection_of_connect_error hopen hm, hfailed]
    exact .noText hbackend htext hidle
  | @failed b s₁ s₂ text e hbackend htext htries =>
    rw [hbackend] at hidle hdriver
    have htried := m.tried_tries services b text s₁ (hdriver b rfl)
    rw [htries] at htried
    rw [openConnection_of_connect_error hopen hm, hfailed]
    exact .failed hbackend htext hidle htried
  | @connected b s₁ s₂ text hbackend htext htries =>
    rw [hbackend] at hidle hdriver
    have htried := m.tried_tries services b text s₁ (hdriver b rfl)
    have hinstalled := m.attempted_tries services b text
      (.refl s₁.drivers fun _ => 0 : s₁.drivers.Tracks s₁.drivers (fun _ => 0) fun _ => 0)
    rw [htries] at htried hinstalled
    rw [openConnection_of_connect_ok hopen hm]
    exact .opened hbackend htext hidle htried
      (s₂.timed_startLifecycle services m.profile b m.profile.queryTimeout.toNat hinstalled.2)

end ConnectionManager

/-- After any moves of any managers on connections that start unopened, whatever the drivers, the
providers of tokens and the control plane do, let a manager open a connection.

* Where the connection is open, nothing is done at all.
* Elsewhere the opening ends in one of the ways of `ConnectionManager.OpeningEnd`.  Without a
  backend or a connection string nothing is asked of a driver.  Otherwise there are logins, at most
  as many as the profile says, and one in any case: each but the last fails with an error of the
  driver that is worth another one, a second lies between two of them, and what the last one returns
  is what the opening returns.  Only when it succeeds the connection is open, and its driver was
  told once how long queries may take; else the connection has failed and has no handle. -/
theorem Workplace.tries_of_opening (services : Services σ τ) (s : Session σ τ)
    (native odbc : Option DriverScript) (names : List String) (moves : List Move)
    (m : ConnectionManager) (override : Option String) :
    let w := (Workplace.start { s with resolver := none } native odbc names).run services moves
    let now := { w.session with override }
    (∀ c : Connection, c.isOpen = true →
      m.openConnection services c now = (.ok (), c, now)) ∧
    ∀ c ∈ w.connections, c.isOpen = false →
      m.OpeningEnd services c now (m.openConnection services c now).1
        (m.openConnection services c now).2.1 (m.openConnection services c now).2.2 := by
  intro w now
  have hbalanced : w.Balanced :=
    (balanced_start { s with resolver := none } native odbc names).run services moves
  have hremembers : w.session.Remembers :=
    remembers_run (balanced_start _ native odbc names) (fun _ _ h => absurd h (by simp [start]))
      services moves
  refine ⟨fun c hopen => ConnectionManager.openConnection_of_isOpen hopen, fun c hc hopen => ?_⟩
  have hnone : c.handle = none := (hbalanced.settled c hc).handle_eq_none hopen
  have hnow : now.Remembers := hremembers
  exact m.openingEnd_openConnection services hnow hopen hnone

end WarehouseAccess
