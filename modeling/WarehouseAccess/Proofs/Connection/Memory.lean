import WarehouseAccess.Proofs.Connection.Logins
import WarehouseAccess.Proofs.Driver.Resolution

/-!
# What is remembered has a driver

A session remembers the backend that was chosen last, and takes it again without a look at the
drivers.  `Session.Remembers` says that this backend has a driver all the same.  It holds at the
start, where nothing is remembered, and `Workplace.remembers_run` shows that every move keeps it: a
backend is remembered only when its driver was found, and drivers are never removed.
-/

namespace WarehouseAccess

variable {σ τ : Type}

namespace Drivers

/-- A backend that is found has a driver. -/
lemma isSome_get?_of_resolve {ds : Drivers} {p : DriverPreference} {b : Backend}
    (h : ds.resolve p = .ok b) : (ds.get? b).isSome := by
  have havailable : ds.Available b := by
    have hresolves := ds.resolves_resolve p
    rw [h] at hresolves
    cases hresolves with
    | native hb => exact hb
    | odbc hb => exact hb
    | first hb => exact hb
    | second _ hb => exact hb
  obtain ⟨d, hd, -⟩ := Option.map_eq_some_iff.mp havailable
  simp [hd]

end Drivers

namespace Session

/-- The backend that the session remembers has a driver. -/
def Remembers (s : Session σ τ) : Prop :=
  ∀ p b, s.resolver = some (p, b) → (s.drivers.get? b).isSome

/-- Settling the pooling leaves the memory and the installed drivers as they are. -/
lemma settlePooling_memory (s : Session σ τ) (b : Backend) (enabled : Bool) :
    (s.settlePooling b enabled).resolver = s.resolver ∧
      ∀ b', ((s.settlePooling b enabled).drivers.get? b').isSome = (s.drivers.get? b').isSome := by
  unfold settlePooling
  split_ifs
  · exact ⟨rfl, fun _ => rfl⟩
  · exact ⟨rfl, (s.drivers.quiet_configurePooling b enabled poolSize).installed⟩

/-- Choosing a backend remembers only what has a driver, and leads only to what has one. -/
lemma Remembers.backendFor {s : Session σ τ} (hs : s.Remembers) (p : Profile) :
    (s.backendFor p).2.Remembers ∧
      ∀ b, (s.backendFor p).1 = .ok b → ((s.backendFor p).2.drivers.get? b).isSome := by
  unfold Session.backendFor
  rcases hr : s.resolver.resolveEffective s.drivers p.driverBackend s.override with
    ⟨outcome, resolver⟩
  cases outcome with
  | error e =>
    obtain rfl := ResolverCache.eq_of_resolveEffective hr
    exact ⟨hs, nofun⟩
  | ok b =>
    obtain ⟨q, -, rfl, hb⟩ := ResolverCache.eq_some_of_resolveEffective hr
    obtain ⟨hresolver, hinstalled⟩ :=
      settlePooling_memory { s with resolver := some (q, b) } b p.pooling
    have hdriver : (s.drivers.get? b).isSome :=
      hb.elim (hs q b) Drivers.isSome_get?_of_resolve
    refine ⟨fun q' b' h => ?_, fun b' h => ?_⟩
    · rw [hresolver] at h
      obtain ⟨-, rfl⟩ := Prod.mk.inj (Option.some.inj h)
      rwa [hinstalled]
    · obtain rfl := Except.ok.inj h
      rwa [hinstalled]

/-- A session remembers what has a driver if another one does, of which it has the memory, and of
which it has the drivers. -/
lemma Remembers.of_eq {s s' : Session σ τ} (hs : s.Remembers) (hresolver : s'.resolver = s.resolver)
    (hinstalled : ∀ b, (s'.drivers.get? b).isSome = (s.drivers.get? b).isSome) : s'.Remembers := by
  intro p b h
  rw [hinstalled]
  exact hs p b (hresolver.symm.trans h)

end Session

namespace ConnectionManager

/-- Connecting changes the memory as choosing a backend does. -/
lemma resolver_connect (m : ConnectionManager) (services : Services σ τ) (s : Session σ τ) :
    (m.connect services s).2.resolver = (s.backendFor m.profile).2.resolver := by
  have htries (b : Backend) (text : String) (s : Session σ τ) :
      (m.tries services b text s).2.resolver = s.resolver := by
    obtain ⟨_, _, _, _, htries⟩ := m.exists_tries_eq services b text s
    rw [htries]
  have hconnects := m.connects_connect services s
  generalize m.connect services s = result at hconnects ⊢
  cases hconnects with
  | noBackend hbackend => rw [hbackend]
  | noText hbackend _ => rw [hbackend]
  | @failed b s₁ _ text _ hbackend _ htried =>
    have hsame := htries b text s₁
    rw [htried] at hsame
    rw [hbackend]
    exact hsame
  | @connected b s₁ _ text hbackend _ htried =>
    have hsame := htries b text s₁
    rw [htried] at hsame
    rw [hbackend]
    exact hsame

/-- Behind the boundary around statements the memory changes as choosing a backend does, if the
action leaves it alone. -/
lemma resolver_withBoundary {α : Type} (m : ConnectionManager) (c : Connection) (s : Session σ τ)
    {action : Backend → Connection → Session σ τ →
      Except ConnectionError α × Connection × Session σ τ}
    (haction : ∀ b c s', (action b c s').2.2.resolver = s'.resolver) :
    (m.withBoundary c s action).2.2.resolver = (s.backendFor m.profile).2.resolver := by
  unfold withBoundary
  rcases s.backendFor m.profile with ⟨outcome, s₁⟩
  cases outcome with
  | error e => rfl
  | ok b =>
    have hsame := haction b c s₁
    dsimp only
    rcases ha : action b c s₁ with ⟨outcome, c', s₂⟩
    rw [ha] at hsame
    cases outcome with
    | ok value => exact hsame
    | error e => exact hsame

/-- Carrying out a statement and collecting what it returns leaves the memory alone. -/
lemma resolver_runAndCollect (m : ConnectionManager) (sql : String) (fetch : Bool)
    (limit : Option Nat) (b : Backend) (c : Connection) (s : Session σ τ) :
    (m.runAndCollect sql fetch limit b c s).2.2.resolver = s.resolver := by
  have hsame := (m.memory_runStatement sql none b c s).1
  unfold runAndCollect
  rcases hr : m.runStatement sql none b c s with ⟨outcome, c', s'⟩
  rw [hr] at hsame
  cases outcome with
  | error e => exact hsame
  | ok q => exact hsame

end ConnectionManager

/-- Whatever is done with a connection, the memory stays as it is or changes as choosing a backend
does. -/
lemma ConnectionUse.resolver_perform (services : Services σ τ) (c : Connection) (s : Session σ τ)
    (use : ConnectionUse) :
    (use.perform services c s).2.2.resolver = s.resolver ∨
      ∃ p, (use.perform services c s).2.2.resolver = (s.backendFor p).2.resolver := by
  cases use with
  | openBy m =>
    cases hopen : c.isOpen with
    | true =>
      rw [perform, ConnectionManager.openConnection_of_isOpen hopen]
      exact .inl rfl
    | false =>
      refine .inr ⟨m.profile, ?_⟩
      have hconnect := m.resolver_connect services s
      rcases hm : m.connect services s with ⟨outcome, s'⟩
      rw [hm] at hconnect
      cases outcome with
      | error e =>
        rw [perform, ConnectionManager.openConnection_of_connect_error hopen hm]
        exact hconnect
      | ok handle =>
        rw [perform, ConnectionManager.openConnection_of_connect_ok hopen hm]
        refine Eq.trans ?_ hconnect
        dsimp only [Session.startLifecycle]
        split <;> rfl
  -- the boundary chooses a backend, and what is behind it does not
  | addQuery m sql bindings =>
    exact .inr ⟨m.profile, m.resolver_withBoundary c s fun b c s' =>
      (m.memory_runStatement sql bindings b c s').1⟩
  | execute m sql fetch limit =>
    refine .inr ⟨m.profile, ?_⟩
    rw [perform, m.execute_eq_withBoundary]
    exact m.resolver_withBoundary c s (m.resolver_runAndCollect sql fetch limit)
  | releaseByManager => exact .inl rfl
  | release => exact .inl rfl
  | rollback => exact .inl rfl

namespace Workplace

/-- A move remembers only what has a driver. -/
lemma remembers_step {w : Workplace σ τ} (hw : w.Balanced) (hs : w.session.Remembers)
    (services : Services σ τ) (move : Move) :
    (w.step services move).2.session.Remembers := by
  unfold step
  split
  · exact hs
  · next c hget =>
    have hmem : c ∈ w.connections := List.mem_of_getElem? hget
    have hkeeps : c.Keeps w.session.drivers _ _ :=
      move.use.keeps_perform services (s := w.sessionFor move) (hw.settled c hmem) (hw.backed hmem)
    have hinstalled := hkeeps.tracks.installed
    have hs' : (w.sessionFor move).Remembers := hs
    rcases move.use.resolver_perform services c (w.sessionFor move) with hsame | ⟨p, hchosen⟩
    · exact hs'.of_eq hsame hinstalled
    · refine (hs'.backendFor p).1.of_eq hchosen fun b => ?_
      rw [hinstalled, ((w.sessionFor move).quiet_backendFor p).installed]
      rfl

/-- Moves remember only what has a driver. -/
lemma remembers_run {w : Workplace σ τ} (hw : w.Balanced) (hs : w.session.Remembers)
    (services : Services σ τ) (moves : List Move) : (w.run services moves).session.Remembers := by
  induction moves generalizing w with
  | nil => exact hs
  | cons move moves ih => exact ih (hw.step services move) (remembers_step hw hs services move)

end Workplace

end WarehouseAccess
