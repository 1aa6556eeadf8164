import WarehouseAccess.Proofs.Connection.Connecting
import WarehouseAccess.Proofs.Connection.Statements

/-!
# Handles

A connection is open just when it holds a handle, and every connection that a driver opened and that
was not closed since is held by exactly one open connection.  `Keeps` is what one operation on one
connection has to do for that, whatever fails, and here every operation is shown to do it.
-/

namespace WarehouseAccess

namespace Connection

/-- The connection is open just when it holds a handle, and it is not about to be opened. -/
structure Settled (c : Connection) : Prop where
  /-- State and handle agree. -/
  opened_iff : c.state = .opened ↔ c.handle.isSome = true
  /-- No attempt to open it is left half done. -/
  ne_opening : c.state ≠ .opening

/-- The connection holds a handle on a backend. -/
def holds (c : Connection) (b : Backend) : Bool := c.handle.any fun handle => handle.backend == b

/-- The number of handles that the connection holds on a backend. -/
def held (c : Connection) (b : Backend) : Int := if c.holds b then 1 else 0

/-- The backend of the handle that the connection holds has a driver. -/
def Backed (c : Connection) (ds : Drivers) : Prop := ∀ b, c.holds b = true → (ds.get? b).isSome

/-- What an operation on a connection keeps: the connection is settled and its handle has a driver,
and what the drivers have to close changes just as what the connection holds. -/
structure Keeps (c : Connection) (ds : Drivers) (c' : Connection) (ds' : Drivers) : Prop where
  /-- State and handle agree afterwards. -/
  settled : c'.Settled
  /-- The handle has a driver afterwards. -/
  backed : c'.Backed ds'
  /-- No handle was lost and none was closed twice. -/
  tracks : ds.Tracks ds' c.held c'.held

variable {c c' c'' : Connection} {ds ds' ds'' : Drivers}

/-- A connection without handle holds nothing. -/
lemma held_eq_zero (h : c.handle = none) : c.held = fun _ => 0 := by
  funext b
  simp [held, holds, h]

/-- A connection without handle needs no driver. -/
lemma backed_of_handle_eq_none (h : c.handle = none) (ds : Drivers) : c.Backed ds := by
  intro b hb
  simp [holds, h] at hb

/-- A handle keeps its driver when no driver is installed or removed. -/
lemma Backed.of_tracks {held held' : Backend → Int} (h : c.Backed ds)
    (ht : ds.Tracks ds' held held') : c.Backed ds' := by
  intro b hb
  rw [ht.installed b]
  exact h b hb

/-- A settled connection that is not open has no handle. -/
lemma Settled.handle_eq_none (h : c.Settled) (hopen : c.isOpen = false) : c.handle = none := by
  have hstate : c.state ≠ .opened := by simpa [isOpen] using hopen
  rw [Ne, h.opened_iff] at hstate
  simpa using hstate

/-- A settled connection is open just when it has a handle. -/
lemma Settled.isOpen_eq (h : c.Settled) : c.isOpen = c.handle.isSome := by
  cases hs : c.handle.isSome with
  | true => simpa [isOpen] using h.opened_iff.mpr hs
  | false =>
    have hstate : c.state ≠ .opened := fun ho => by simp [h.opened_iff.mp ho] at hs
    simpa [isOpen] using hstate

/-- An operation that leaves a connection as it is, and the drivers with as much to close. -/
lemma Keeps.of_tracks (hc : c.Settled) (hb : c.Backed ds) (ht : ds.Tracks ds' c.held c.held) :
    c.Keeps ds c ds' := ⟨hc, hb.of_tracks ht, ht⟩

/-- Operations one after the other. -/
lemma Keeps.trans (h : c.Keeps ds c' ds') (h' : c'.Keeps ds' c'' ds'') : c.Keeps ds c'' ds'' :=
  ⟨h'.settled, h'.backed, h.tracks.trans h'.tracks⟩

/-! ### Rolling back and releasing -/

/-- Rolling back keeps what the connection holds. -/
lemma tracks_rollback (c : Connection) (ds : Drivers) (held : Backend → Int) :
    ds.Tracks (c.rollback ds).2 held held := by
  unfold rollback
  split
  · exact .refl ds held
  · exact Drivers.tracks_act_of_eq ds _ _ held ScriptedDriver.outstanding_rollback

/-- A released connection is closed. -/
lemma state_release (c : Connection) (ds : Drivers) : (c.release ds).2.1.state = .closed := by
  unfold release
  split <;> rfl

/-- A released connection has no handle. -/
lemma handle_release (c : Connection) (ds : Drivers) : (c.release ds).2.1.handle = none := by
  unfold release
  split <;> rfl

/-- Without a handle, releasing asks nothing of a driver and succeeds. -/
lemma release_of_handle_eq_none (h : c.handle = none) (ds : Drivers) :
    c.release ds = (.ok (), { c with state := .closed, handle := none }, ds) := by
  rw [release]
  split
  · rfl
  · next handle hsome => simp [h] at hsome

/-- Without a handle, rolling back asks nothing of a driver and succeeds. -/
lemma rollback_of_handle_eq_none (h : c.handle = none) (ds : Drivers) :
    c.rollback ds = (.ok (), ds) := by
  rw [rollback]
  split
  · rfl
  · next handle hsome => simp [h] at hsome

/-- Releasing closes what the connection holds, even when the driver fails to close. -/
lemma keeps_release (hb : c.Backed ds) : c.Keeps ds (c.release ds).2.1 (c.release ds).2.2 := by
  have hstate := c.state_release ds
  have hhandle := c.handle_release ds
  refine ⟨⟨by simp [hstate, hhandle], by simp [hstate]⟩, backed_of_handle_eq_none hhandle _, ?_⟩
  rw [held_eq_zero hhandle]
  cases hc : c.handle with
  | none =>
    rw [release_of_handle_eq_none hc, held_eq_zero hc]
    exact .refl ds _
  | some handle =>
    obtain ⟨d, hd⟩ := Option.isSome_iff_exists.mp
      (hb handle.backend (by simp [holds, hc]))
    have hrelease : (c.release ds).2.2 =
        (ds.act handle.backend (.ok ()) ScriptedDriver.close).2 := by simp [release, hc]
    rw [hrelease]
    refine Drivers.tracks_act _ _ hd ?_ fun b hne => ?_
    · rw [d.outstanding_close]
      simp [held, holds, hc]
    · simp [held, holds, hc, hne]

end Connection

namespace ConnectionManager

open Connection

variable {σ τ : Type} {c : Connection} {ds : Drivers}

/-- Rolling back and releasing closes what the connection holds. -/
lemma keeps_release (hc : c.Settled) (hb : c.Backed ds) :
    c.Keeps ds (release c ds).2.1 (release c ds).2.2 := by
  have hrollback : c.Keeps ds c (c.rollback ds).2 :=
    .of_tracks hc hb (c.tracks_rollback ds c.held)
  exact hrollback.trans (Connection.keeps_release hrollback.backed)

/-- Whatever an error does to the connection, nothing is lost. -/
lemma keeps_settle (e : ConnectionError) (hc : c.Settled) (hb : c.Backed ds) :
    c.Keeps ds (settle e c ds).2.1 (settle e c ds).2.2 := by
  unfold settle
  split
  · split
    · exact Connection.keeps_release hb
    · exact .of_tracks hc hb (.refl ds c.held)
  · exact keeps_release hc hb

/-- An error gives no handle to a connection without one. -/
lemma handle_settle (e : ConnectionError) (h : c.handle = none) (ds : Drivers) :
    (settle e c ds).2.1.handle = none := by
  unfold settle
  split
  · split
    · exact c.handle_release ds
    · exact h
  · exact c.handle_release _

/-! ### Opening -/

/-- Beginning the life of a run asks nothing of a driver. -/
lemma drivers_startLifecycle (s : Session σ τ) (services : Services σ τ) (p : Profile) :
    (s.startLifecycle services p).drivers = s.drivers := by
  unfold Session.startLifecycle
  split <;> rfl

/-- One handle on a backend, and none on the other. -/
def oneOn (b b' : Backend) : Int := if b == b' then 1 else 0

/-- What an attempt to connect to a backend leads to: one more connection of its driver to be closed
when it succeeds, and as many as before when it fails. -/
def Attempted (ds : Drivers) (b : Backend) (outcome : Except ConnectionError Unit)
    (ds' : Drivers) : Prop :=
  match outcome with
  | .ok () => ds.Tracks ds' (fun _ => 0) (oneOn b) ∧ (ds'.get? b).isSome
  | .error _ => ds.Tracks ds' (fun _ => 0) fun _ => 0

/-- What went before an attempt without opening anything belongs to it. -/
lemma Attempted.of_tracks {ds ds' ds'' : Drivers} {b : Backend}
    {outcome : Except ConnectionError Unit} (h : ds.Tracks ds' (fun _ => 0) fun _ => 0)
    (h' : Attempted ds' b outcome ds'') : Attempted ds b outcome ds'' := by
  cases outcome with
  | error e => exact h.trans h'
  | ok value => exact ⟨h.trans h'.1, h'.2⟩

/-- One attempt to connect opens one connection or none. -/
lemma attempted_attempt (m : ConnectionManager) (services : Services σ τ) (b : Backend)
    (text : String) (s : Session σ τ) :
    Attempted s.drivers b (m.attempt services b text s).1
      (m.attempt services b text s).2.drivers := by
  unfold attempt
  rcases services.authority.preAuthAttributes m.profile b s.tokens s.world with
    ⟨outcome, tokens, world⟩
  cases outcome with
  | error e => exact .refl s.drivers _
  | ok attributes =>
    cases hd : s.drivers.get? b with
    | none =>
      simp only [Session.act, Drivers.act, hd]
      exact .refl s.drivers _
    | some d =>
      simp only [Session.act, Drivers.act, hd]
      rcases hconnect : d.connect text m.profile.loginTimeout.toNat true (b.attributes attributes)
        with ⟨outcome, d'⟩
      cases outcome with
      | error e =>
        have heq := d.outstanding_of_connect_error hconnect
        exact Drivers.tracks_set hd (by rw [heq]) fun _ _ => rfl
      | ok value =>
        -- a connection that is granted is one more to close
        have heq := d.outstanding_of_connect_ok hconnect
        refine ⟨Drivers.tracks_set hd ?_ fun b' hne => ?_, by simp⟩
        · simp [heq, oneOn]
        · simp [oneOn, hne]

/-- Trying to connect opens one connection when it succeeds in the end, and leaves nothing open when
it fails, however often it was tried. -/
lemma attempted_tries (m : ConnectionManager) (services : Services σ τ) (b : Backend)
    (text : String) {ds : Drivers} {s : Session σ τ}
    (h : ds.Tracks s.drivers (fun _ => 0) fun _ => 0) :
    Attempted ds b (m.tries services b text s).1 (m.tries services b text s).2.drivers := by
  refine RetryPolicy.run_induction
    (fun s' : Session σ τ => ds.Tracks s'.drivers (fun _ => 0) fun _ => 0)
    (fun outcome (s' : Session σ τ) => Attempted ds b outcome s'.drivers) _ ?_ ?_ s h
  · intro _ s' hs'
    exact (m.attempted_attempt services b text s').of_tracks hs'
  · intro _ s' hs'
    exact hs'

/-- Connecting opens one connection when it yields a handle, on the backend of the handle, and
leaves nothing open when it fails. -/
lemma tracks_connect (m : ConnectionManager) (services : Services σ τ) (s : Session σ τ) :
    match m.connect services s with
    | (.ok handle, s') =>
      s.drivers.Tracks s'.drivers (fun _ => 0) (oneOn handle.backend) ∧
        (s'.drivers.get? handle.backend).isSome
    | (.error _, s') => s.drivers.Tracks s'.drivers (fun _ => 0) fun _ => 0 := by
  have hchosen := (s.quiet_backendFor m.profile).tracks fun _ => 0
  have hconnects := m.connects_connect services s
  generalize m.connect services s = result at hconnects ⊢
  cases hconnects with
  | noBackend hbackend => rwa [hbackend] at hchosen
  | noText hbackend _ => rwa [hbackend] at hchosen
  | @failed b _ _ text _ hbackend _ htries =>
    rw [hbackend] at hchosen
    have htried := m.attempted_tries services b text hchosen
    rwa [htries] at htried
  | @connected b _ s₂ text hbackend _ htries =>
    rw [hbackend] at hchosen
    have htried := m.attempted_tries services b text hchosen
    rw [htries] at htried
    have hset := (s₂.quiet_setQueryTimeout b m.profile.queryTimeout.toNat).tracks (oneOn b)
    exact ⟨htried.1.trans hset, (hset.installed b).trans htried.2⟩

/-- Opening keeps what a connection holds, or gives it its handle. -/
lemma keeps_openConnection (m : ConnectionManager) (services : Services σ τ) {s : Session σ τ}
    (hc : c.Settled) (hb : c.Backed s.drivers) :
    c.Keeps s.drivers (m.openConnection services c s).2.1
      (m.openConnection services c s).2.2.drivers := by
  cases hopen : c.isOpen with
  | true =>
    rw [openConnection_of_isOpen hopen]
    exact .of_tracks hc hb (.refl s.drivers c.held)
  | false =>
    have hnone := hc.handle_eq_none hopen
    have hconnect := m.tracks_connect services s
    rw [← held_eq_zero hnone] at hconnect
    rcases hm : m.connect services s with ⟨outcome, s'⟩
    rw [hm] at hconnect
    cases outcome with
    | error e =>
      rw [openConnection_of_connect_error hopen hm]
      exact ⟨⟨by simp [hnone], by simp⟩, backed_of_handle_eq_none hnone _, hconnect⟩
    | ok handle =>
      rw [openConnection_of_connect_ok hopen hm]
      dsimp only at hconnect ⊢
      rw [drivers_startLifecycle]
      refine ⟨⟨by simp [attach], by simp [attach]⟩, fun b hholds => ?_, hconnect.1⟩
      have hbackend : handle.backend = b := by simpa [holds, attach] using hholds
      exact hbackend ▸ hconnect.2

/-! ### Statements -/

/-- Behind the boundary around statements nothing is lost, as long as the action leaves the
connection as it is and is quiet. -/
lemma keeps_withBoundary {α : Type} (m : ConnectionManager) {s : Session σ τ}
    {action : Backend → Connection → Session σ τ →
      Except ConnectionError α × Connection × Session σ τ}
    (hc : c.Settled) (hb : c.Backed s.drivers)
    (hsame : ∀ b s', (action b c s').2.1 = c)
    (hquiet : ∀ b (s' : Session σ τ), s'.drivers.Quiet (action b c s').2.2.drivers) :
    c.Keeps s.drivers (m.withBoundary c s action).2.1 (m.withBoundary c s action).2.2.drivers := by
  have hbackend := s.quiet_backendFor m.profile
  unfold withBoundary
  rcases hs : s.backendFor m.profile with ⟨outcome, s₁⟩
  rw [hs] at hbackend
  cases outcome with
  | error e => exact .of_tracks hc hb (hbackend.tracks c.held)
  | ok b =>
    have hactionSame := hsame b s₁
    have haction := hbackend.trans (hquiet b s₁)
    dsimp only
    rcases ha : action b c s₁ with ⟨outcome, c', s₂⟩
    rw [ha] at hactionSame haction
    obtain rfl : c' = c := hactionSame
    have hkeeps : c'.Keeps s.drivers c' s₂.drivers := .of_tracks hc hb (haction.tracks c'.held)
    cases outcome with
    | ok value => exact hkeeps
    | error e => exact hkeeps.trans (keeps_settle e hc hkeeps.backed)

/-- Behind the boundary around statements a connection without handle gets none. -/
lemma handle_withBoundary {α : Type} (m : ConnectionManager) {s : Session σ τ}
    {action : Backend → Connection → Session σ τ →
      Except ConnectionError α × Connection × Session σ τ}
    (h : c.handle = none) (hsame : ∀ b s', (action b c s').2.1 = c) :
    (m.withBoundary c s action).2.1.handle = none := by
  unfold withBoundary
  rcases s.backendFor m.profile with ⟨outcome, s₁⟩
  cases outcome with
  | error e => exact h
  | ok b =>
    have hactionSame := hsame b s₁
    dsimp only
    rcases ha : action b c s₁ with ⟨outcome, c', s₂⟩
    rw [ha] at hactionSame
    obtain rfl : c' = c := hactionSame
    cases outcome with
    | ok value => exact h
    | error e => exact handle_settle e h s₂.drivers

/-- Carrying out a statement loses nothing. -/
lemma keeps_addQuery (m : ConnectionManager) (sql : String) (bindings : Option (List SqlValue))
    {s : Session σ τ} (hc : c.Settled) (hb : c.Backed s.drivers) :
    c.Keeps s.drivers (m.addQuery c sql bindings s).2.1
      (m.addQuery c sql bindings s).2.2.drivers :=
  m.keeps_withBoundary hc hb (fun b s' => m.runStatement_connection sql bindings b c s')
    fun b s' => m.quiet_runStatement sql bindings b c s'

/-- Carrying out a statement gives no handle to a connection without one. -/
lemma handle_addQuery (m : ConnectionManager) (sql : String) (bindings : Option (List SqlValue))
    (s : Session σ τ) (h : c.handle = none) : (m.addQuery c sql bindings s).2.1.handle = none :=
  m.handle_withBoundary h fun b s' => m.runStatement_connection sql bindings b c s'

/-- Carrying out a statement and collecting what it returns loses nothing. -/
lemma keeps_execute (m : ConnectionManager) (sql : String) (fetch : Bool) (limit : Option Nat)
    {s : Session σ τ} (hc : c.Settled) (hb : c.Backed s.drivers) :
    c.Keeps s.drivers (m.execute c sql fetch limit s).2.1
      (m.execute c sql fetch limit s).2.2.drivers := by
  have hquery := m.keeps_addQuery sql none hc hb
  unfold execute
  rcases hq : m.addQuery c sql none s with ⟨outcome, c', s'⟩
  rw [hq] at hquery
  cases outcome with
  | error e => exact hquery
  | ok q =>
    refine hquery.trans (m.keeps_withBoundary hquery.settled hquery.backed ?_ ?_)
    · intro b s''
      rfl
    · intro b s''
      exact quiet_collect q fetch limit b c' s''

/-- Carrying out a statement and collecting what it returns gives no handle to a connection without
one. -/
lemma handle_execute (m : ConnectionManager) (sql : String) (fetch : Bool) (limit : Option Nat)
    (s : Session σ τ) (h : c.handle = none) :
    (m.execute c sql fetch limit s).2.1.handle = none := by
  have hquery := m.handle_addQuery sql none s h
  unfold execute
  rcases hq : m.addQuery c sql none s with ⟨outcome, c', s'⟩
  rw [hq] at hquery
  cases outcome with
  | error e => exact hquery
  | ok q =>
    refine m.handle_withBoundary hquery ?_
    intro b s''
    rfl

end ConnectionManager

end WarehouseAccess
