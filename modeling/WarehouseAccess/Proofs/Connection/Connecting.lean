import WarehouseAccess.Connection.Manager
import WarehouseAccess.Proofs.Connection.Retry

/-!
# How connecting goes

Connecting chooses a backend, writes the connection string for it and then tries to connect, perhaps
more than once.  `ConnectionManager.Connects` lists the ways in which that can go; what is said of
connecting elsewhere is said case by case along them.  Opening a connection is to connect, unless it
is open already.
-/

namespace WarehouseAccess

variable {σ τ : Type}

namespace ConnectionManager

/-- The tries to connect to a backend: as many as the profile allows, until one succeeds or fails
for good. -/
def tries (m : ConnectionManager) (services : Services σ τ) (b : Backend) (text : String)
    (s : Session σ τ) : Except ConnectionError Unit × Session σ τ :=
  (RetryPolicy.new m.profile.retries.toNat retryInterval).run (ConnectionError.isRetryable b)
    Session.pause (fun _ => m.attempt services b text) s

/-- A try to connect changes nothing of a session but its drivers, the remembered token and the
world. -/
lemma exists_attempt_eq (m : ConnectionManager) (services : Services σ τ) (b : Backend)
    (text : String) (s : Session σ τ) :
    ∃ drivers tokens world,
      (m.attempt services b text s).2 = { s with drivers, tokens, world } := by
  unfold attempt
  split
  · exact ⟨_, _, _, rfl⟩
  · dsimp only [Session.act]
    split
    · next hact => exact ⟨_, _, _, (Prod.mk.inj hact).2.symm⟩
    · next hact => exact ⟨_, _, _, (Prod.mk.inj hact).2.symm⟩

/-- Trying to connect, however often, makes pauses besides. -/
lemma exists_tries_eq (m : ConnectionManager) (services : Services σ τ) (b : Backend)
    (text : String) (s : Session σ τ) :
    ∃ drivers tokens world pauses,
      (m.tries services b text s).2 = { s with drivers, tokens, world, pauses } := by
  refine RetryPolicy.run_induction
    (fun s' : Session σ τ => ∃ drivers tokens world pauses,
      s' = { s with drivers, tokens, world, pauses })
    (fun _ (s' : Session σ τ) => ∃ drivers tokens world pauses,
      s' = { s with drivers, tokens, world, pauses }) _ ?_ ?_ s ⟨_, _, _, _, rfl⟩
  · rintro _ _ ⟨_, _, _, pauses, rfl⟩
    obtain ⟨drivers, tokens, world, hattempt⟩ := m.exists_attempt_eq services b text
      { s with drivers := _, tokens := _, world := _, pauses }
    exact ⟨drivers, tokens, world, pauses, hattempt⟩
  · rintro _ _ ⟨drivers, tokens, world, _, rfl⟩
    exact ⟨drivers, tokens, world, _, rfl⟩

/-- The ways in which connecting can go. -/
inductive Connects (m : ConnectionManager) (services : Services σ τ) (s : Session σ τ) :
    Except ConnectionError ConnectionHandle × Session σ τ → Prop
  /-- No backend can be had. -/
  | noBackend {e : ConnectionError} {s₁ : Session σ τ}
    (hbackend : s.backendFor m.profile = (.error e, s₁)) : Connects m services s (.error e, s₁)
  /-- The profile has no connection string for the backend. -/
  | noText {b : Backend} {s₁ : Session σ τ} {e : DriverError}
    (hbackend : s.backendFor m.profile = (.ok b, s₁)) (htext : m.connectionString b = .error e) :
    Connects m services s (.error (.driver e), s₁)
  /-- The last try fails. -/
  | failed {b : Backend} {s₁ s₂ : Session σ τ} {text : String} {e : ConnectionError}
    (hbackend : s.backendFor m.profile = (.ok b, s₁)) (htext : m.connectionString b = .ok text)
    (htries : m.tries services b text s₁ = (.error e, s₂)) : Connects m services s (.error e, s₂)
  /-- A try succeeds, and the driver is told how long queries may take. -/
  | connected {b : Backend} {s₁ s₂ : Session σ τ} {text : String}
    (hbackend : s.backendFor m.profile = (.ok b, s₁)) (htext : m.connectionString b = .ok text)
    (htries : m.tries services b text s₁ = (.ok (), s₂)) :
    Connects m services s (.ok ⟨b, m.profile.queryTimeout.toNat⟩,
      (s₂.act b () fun d => ((), d.setQueryTimeout m.profile.queryTimeout.toNat)).2)

/-- Connecting goes in one of these ways. -/
lemma connects_connect (m : ConnectionManager) (services : Services σ τ) (s : Session σ τ) :
    m.Connects services s (m.connect services s) := by
  unfold connect
  rcases hbackend : s.backendFor m.profile with ⟨outcome, s₁⟩
  cases outcome with
  | error e => exact .noBackend hbackend
  | ok b =>
    dsimp only
    cases htext : m.connectionString b with
    | error e => exact .noText hbackend htext
    | ok text =>
      rcases htries : m.tries services b text s₁ with ⟨outcome, s₂⟩
      have hrun := htries
      unfold tries at hrun
      dsimp only
      rw [hrun]
      cases outcome with
      | error e => exact .failed hbackend htext htries
      | ok value => exact .connected hbackend htext htries

/-- Connecting goes in no other of these ways. -/
lemma Connects.eq {m : ConnectionManager} {services : Services σ τ} {s : Session σ τ}
    {result : Except ConnectionError ConnectionHandle × Session σ τ}
    (h : m.Connects services s result) : m.connect services s = result := by
  unfold connect
  cases h with
  | noBackend hbackend => rw [hbackend]
  | noText hbackend htext => simp only [hbackend, htext]
  | failed hbackend htext htries =>
    unfold tries at htries
    simp only [hbackend, htext, htries]
  | connected hbackend htext htries =>
    unfold tries at htries
    simp only [hbackend, htext, htries]

section Opening

variable {m : ConnectionManager} {services : Services σ τ} {c : Connection} {s s' : Session σ τ}

/-- Opening does nothing for a connection that is open already. -/
lemma openConnection_of_isOpen (h : c.isOpen = true) :
    m.openConnection services c s = (.ok (), c, s) := by
  rw [openConnection, if_pos h]

/-- Opening fails when connecting fails. -/
lemma openConnection_of_connect_error (h : c.isOpen = false) {e : ConnectionError}
    (hconnect : m.connect services s = (.error e, s')) :
    m.openConnection services c s = (.error e, { c with state := .failed }, s') := by
  rw [openConnection, h, hconnect]
  rfl

/-- Opening succeeds when connecting succeeds, and then lets the life of the run begin. -/
lemma openConnection_of_connect_ok (h : c.isOpen = false) {handle : ConnectionHandle}
    (hconnect : m.connect services s = (.ok handle, s')) :
    m.openConnection services c s =
      (.ok (), c.attach handle, s'.startLifecycle services m.profile) := by
  rw [openConnection, h, hconnect]
  rfl

end Opening

end ConnectionManager

/-- Services without any provider of tokens, at a clock that stands still, that reach no control
plane. -/
def bareServices : Services Unit Unit where
  authority := {
    now := fun w => (0, w)
    provider? := fun _ => none
    principal := ⟨"none", fun _ _ w => (.error (.noProvider "none"), w)⟩ }
  connector := ⟨fun _ _ w service => (.error (.runtime "unreachable"), w, service)⟩

end WarehouseAccess
