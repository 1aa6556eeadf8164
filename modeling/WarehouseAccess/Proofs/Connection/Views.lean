import WarehouseAccess.Proofs.Connection.Connecting
import WarehouseAccess.Proofs.Connection.Statements

/-!
# What a view of the drivers does not see

Often only a part of what drivers were asked is of interest, which is a view of a driver.  The
lemmas here say for each thing that is done with a connection that it does not change a view of the
drivers, as long as the view does not see certain calls.
-/

namespace WarehouseAccess

variable {σ τ β : Type} [Inhabited β] {view : ScriptedDriver → β}

namespace Session

/-- Choosing a backend does not change a view that does not see how connections are pooled. -/
lemma viewOn_backendFor (hpooling : ∀ d enabled max, view (d.setPooling enabled max) = view d)
    (s : Session σ τ) (p : Profile) (b : Backend) :
    (s.backendFor p).2.drivers.viewOn view b = s.drivers.viewOn view b := by
  have hsettle (s' : Session σ τ) (b' : Backend) (enabled : Bool) :
      (s'.settlePooling b' enabled).drivers.viewOn view b = s'.drivers.viewOn view b := by
    unfold settlePooling
    split_ifs
    · rfl
    · dsimp only
      rw [Drivers.configurePooling_eq_act]
      refine s'.drivers.viewOn_act_of_eq view b' () (fun d => ?_) b
      cases b' with
      | odbc => exact hpooling d enabled poolSize
      | native =>
        cases enabled with
        | false => rfl
        | true => exact hpooling d true poolSize
  unfold backendFor
  rcases s.resolver.resolveEffective s.drivers p.driverBackend s.override with ⟨outcome, resolver⟩
  cases outcome with
  | error e => rfl
  | ok b' => exact hsettle { s with resolver } b' p.pooling

/-- Choosing a backend makes no pause. -/
lemma pauses_backendFor (s : Session σ τ) (p : Profile) : (s.backendFor p).2.pauses = s.pauses := by
  unfold backendFor
  split
  · rfl
  · unfold settlePooling
    split <;> rfl

end Session

namespace Connection

/-- Rolling back does not change a view that does not see it. -/
lemma viewOn_rollback (hrollback : ∀ d : ScriptedDriver, view d.rollback.2 = view d)
    (c : Connection) (ds : Drivers) (b : Backend) :
    (c.rollback ds).2.viewOn view b = ds.viewOn view b := by
  unfold rollback
  split
  · rfl
  · exact ds.viewOn_act_of_eq view _ _ hrollback b

/-- Releasing does not change a view that does not see a connection closed. -/
lemma viewOn_release (hclose : ∀ d : ScriptedDriver, view d.close.2 = view d)
    (c : Connection) (ds : Drivers) (b : Backend) :
    (c.release ds).2.2.viewOn view b = ds.viewOn view b := by
  unfold release
  split
  · rfl
  · exact ds.viewOn_act_of_eq view _ _ hclose b

end Connection

namespace ConnectionManager

section Boundary

variable (hrollback : ∀ d : ScriptedDriver, view d.rollback.2 = view d)
  (hclose : ∀ d : ScriptedDriver, view d.close.2 = view d)

include hrollback hclose

/-- Rolling back and releasing does not change a view that sees neither. -/
lemma viewOn_release (c : Connection) (ds : Drivers) (b : Backend) :
    (release c ds).2.2.viewOn view b = ds.viewOn view b :=
  (c.viewOn_release hclose _ b).trans (c.viewOn_rollback hrollback ds b)

/-- Whatever an error does to a connection, a view that sees no end of a connection stays. -/
lemma viewOn_settle (e : ConnectionError) (c : Connection) (ds : Drivers) (b : Backend) :
    (settle e c ds).2.2.viewOn view b = ds.viewOn view b := by
  unfold settle
  split
  · split
    · exact c.viewOn_release hclose ds b
    · rfl
  · exact viewOn_release hrollback hclose c ds b

/-- Behind the boundary around statements a view does not change that sees nothing of the boundary
and of the action. -/
lemma viewOn_withBoundary {α : Type}
    (hpooling : ∀ d enabled max, view (d.setPooling enabled max) = view d) {b : Backend}
    {action : Backend → Connection → Session σ τ →
      Except ConnectionError α × Connection × Session σ τ}
    (haction : ∀ b' c' s', (action b' c' s').2.2.drivers.viewOn view b = s'.drivers.viewOn view b)
    (m : ConnectionManager) (c : Connection) (s : Session σ τ) :
    (m.withBoundary c s action).2.2.drivers.viewOn view b = s.drivers.viewOn view b := by
  have hbackend := s.viewOn_backendFor hpooling m.profile b
  unfold withBoundary
  rcases hs : s.backendFor m.profile with ⟨outcome, s₁⟩
  rw [hs] at hbackend
  cases outcome with
  | error e => exact hbackend
  | ok b' =>
    have hdone := (haction b' c s₁).trans hbackend
    dsimp only
    rcases ha : action b' c s₁ with ⟨outcome, c', s₂⟩
    rw [ha] at hdone
    cases outcome with
    | ok value => exact hdone
    | error e => exact (viewOn_settle hrollback hclose e c' s₂.drivers b).trans hdone

end Boundary

section Opening

variable (hconnect : ∀ (d : ScriptedDriver) text timeout autocommit attributes,
  view (d.connect text timeout autocommit attributes).2 = view d)

include hconnect

/-- A try to connect does not change a view that sees no calls to connect. -/
lemma viewOn_attempt (m : ConnectionManager) (services : Services σ τ) (b : Backend) (text : String)
    (s : Session σ τ) (b' : Backend) :
    (m.attempt services b text s).2.drivers.viewOn view b' = s.drivers.viewOn view b' := by
  unfold attempt
  rcases services.authority.preAuthAttributes m.profile b s.tokens s.world with
    ⟨outcome, tokens, world⟩
  cases outcome with
  | error e => rfl
  | ok attributes =>
    have hact := s.drivers.viewOn_act_of_eq view b (.error noDriver : Except DriverError Unit)
      (fun d => hconnect d text m.profile.loginTimeout.toNat true (b.attributes attributes)) b'
    dsimp only [Session.act]
    rcases hcall : s.drivers.act b _ _ with ⟨outcome, ds⟩
    rw [hcall] at hact
    cases outcome with
    | error e => exact hact
    | ok value => exact hact

/-- Trying to connect, however often, does not change a view that sees no calls to connect. -/
lemma viewOn_tries (m : ConnectionManager) (services : Services σ τ) (b : Backend) (text : String)
    (s : Session σ τ) (b' : Backend) :
    (m.tries services b text s).2.drivers.viewOn view b' = s.drivers.viewOn view b' :=
  RetryPolicy.run_induction
    (fun s' : Session σ τ => s'.drivers.viewOn view b' = s.drivers.viewOn view b')
    (fun _ (s' : Session σ τ) => s'.drivers.viewOn view b' = s.drivers.viewOn view b') _
    (fun _ s' hs' => (m.viewOn_attempt hconnect services b text s' b').trans hs')
    (fun _ _ hs' => hs') s rfl

/-- Opening does not change a view that sees nothing that connecting asks of a driver. -/
lemma viewOn_openConnection (hpooling : ∀ d enabled max, view (d.setPooling enabled max) = view d)
    (htimeout : ∀ d seconds, view (d.setQueryTimeout seconds) = view d) (m : ConnectionManager)
    (services : Services σ τ) (c : Connection) (s : Session σ τ) (b : Backend) :
    (m.openConnection services c s).2.2.drivers.viewOn view b = s.drivers.viewOn view b := by
  have hbackend := s.viewOn_backendFor hpooling m.profile b
  -- connecting is choosing a backend, the tries and the query timeout, none of which is seen
  have hconnected : (m.connect services s).2.drivers.viewOn view b = s.drivers.viewOn view b := by
    have hconnects := m.connects_connect services s
    generalize m.connect services s = result at hconnects ⊢
    cases hconnects with
    | noBackend hchosen => rwa [hchosen] at hbackend
    | noText hchosen _ => rwa [hchosen] at hbackend
    | @failed b' s₁ _ text _ hchosen _ htries =>
      have htried := m.viewOn_tries hconnect services b' text s₁ b
      rw [htries] at htried
      rw [hchosen] at hbackend
      exact htried.trans hbackend
    | @connected b' s₁ s₂ text hchosen _ htries =>
      have htried := m.viewOn_tries hconnect services b' text s₁ b
      rw [htries] at htried
      rw [hchosen] at hbackend
      refine Eq.trans ?_ (htried.trans hbackend)
      exact s₂.drivers.viewOn_act_of_eq view b' ()
        (f := fun d => ((), d.setQueryTimeout m.profile.queryTimeout.toNat))
        (fun d => htimeout d m.profile.queryTimeout.toNat) b
  -- letting the run begin asks no driver
  cases hopen : c.isOpen with
  | true => rw [openConnection_of_isOpen hopen]
  | false =>
    rcases hm : m.connect services s with ⟨outcome, s'⟩
    rw [hm] at hconnected
    cases outcome with
    | error e =>
      rw [openConnection_of_connect_error hopen hm]
      exact hconnected
    | ok handle =>
      rw [openConnection_of_connect_ok hopen hm]
      unfold Session.startLifecycle
      split
      · exact hconnected
      · exact hconnected

end Opening

/-- Collecting what a statement returned does not change a view that sees no steps to a next set. -/
lemma viewOn_collect (hnext : ∀ (d : ScriptedDriver) c, view (d.nextSet c).2.2 = view d)
    (q : QueryCursor) (fetch : Bool) (limit : Option Nat) (b : Backend) (c : Connection)
    (s : Session σ τ) (b' : Backend) :
    (collect q fetch limit b c s).2.2.drivers.viewOn view b' = s.drivers.viewOn view b' := by
  have hsame (d : ScriptedDriver) : view (d.collectResults q.cursor fetch limit).2.2 = view d := by
    obtain ⟨calls, hcollects⟩ := d.exists_collects q.cursor fetch limit
    exact hcollects.account.makes.induction (fun d' => view d' = view d)
      (fun d' c' hd => (hnext d' c').trans hd) rfl
  exact s.drivers.viewOn_act_of_eq view q.backend
    (.error noDriver : Except DriverError (StatementResponse × List Row))
    (f := fun d => ((d.collectResults q.cursor fetch limit).1,
      (d.collectResults q.cursor fetch limit).2.2)) hsame b'

end ConnectionManager

end WarehouseAccess
