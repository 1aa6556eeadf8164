import WarehouseAccess.Proofs.Connection.Workplace
import WarehouseAccess.Proofs.Driver.Resolution

/-!
# The boundary around statements

Whatever runs behind `ConnectionManager.withBoundary` ends in one of few ways, and each of them says
what became of the connection and of its handle.  `SettledAs` lists what the boundary makes of an
error of any action, `StatementEnd` how a statement on a connection can end.

### Outline

* `Drivers.Told` counts what the driver of a connection was told between two moments;
* `settledAs_settle` is the law of the boundary for any error of any action;
* `execute_eq_withBoundary` puts the two boundaries that `execute` passes into one, so that no error
  is wrapped twice;
* `errors_behind_boundary` is the law for all statements on connections in use, and for all actions.
-/

namespace WarehouseAccess

namespace Connection

/-- The connection after it was closed. -/
def closed (c : Connection) : Connection := { c with state := .closed, handle := none }

/-- The connection holds a handle on a backend whose driver is there. -/
def reaches (c : Connection) (ds : Drivers) (b : Backend) : Bool :=
  c.holds b && (ds.get? b).isSome

/-- A released connection is a closed one. -/
lemma connection_release (c : Connection) (ds : Drivers) : (c.release ds).2.1 = c.closed := by
  unfold release
  split <;> rfl

/-- A connection without handle reaches no driver. -/
lemma reaches_of_handle_eq_none {c : Connection} (h : c.handle = none) (ds : Drivers)
    (b : Backend) : c.reaches ds b = false := by
  simp [reaches, holds, h]

/-- A connection with a handle reaches the driver of its backend, if that is there. -/
lemma reaches_of_handle_eq_some {c : Connection} {handle : ConnectionHandle}
    (h : c.handle = some handle) (ds : Drivers) (b : Backend) :
    c.reaches ds b = (handle.backend == b && (ds.get? b).isSome) := by
  simp [reaches, holds, h]

/-- The handle of a backed connection reaches its driver. -/
lemma Backed.reaches_eq {c : Connection} {ds : Drivers} (h : c.Backed ds) (b : Backend) :
    c.reaches ds b = c.holds b := by
  cases hc : c.holds b with
  | false => simp [reaches, hc]
  | true => simp [reaches, hc, h b hc]

end Connection

namespace Drivers

/-- From one moment to another the driver that a connection reaches was told so often to roll back
and so often to close, and no driver else was told to do either. -/
structure Told (ds : Drivers) (c : Connection) (rollbacks closes : Nat) (ds' : Drivers) : Prop where
  /-- No driver was installed or removed. -/
  installed : ∀ b, (ds'.get? b).isSome = (ds.get? b).isSome
  /-- How often the drivers were told to roll back. -/
  rollbacks : ∀ b, ds'.rollbacks b = ds.rollbacks b + if c.reaches ds b then rollbacks else 0
  /-- How often the drivers were told to close. -/
  closes : ∀ b, ds'.closes b = ds.closes b + if c.reaches ds b then closes else 0

variable {ds ds' ds'' : Drivers} {c : Connection}

/-- Nothing is told between a moment and itself. -/
lemma Told.refl (ds : Drivers) (c : Connection) : ds.Told c 0 0 ds :=
  ⟨fun _ => rfl, fun b => by simp, fun b => by simp⟩

/-- What is told in two stretches adds up. -/
lemma Told.trans {r k r' k' : Nat} (h : ds.Told c r k ds') (h' : ds'.Told c r' k' ds'') :
    ds.Told c (r + r') (k + k') ds'' := by
  have hreaches : ∀ b, c.reaches ds' b = c.reaches ds b := fun b => by
    rw [Connection.reaches, Connection.reaches, h.installed]
  refine ⟨fun b => (h'.installed b).trans (h.installed b), fun b => ?_, fun b => ?_⟩
  · rw [h'.rollbacks, h.rollbacks, hreaches]
    split_ifs <;> omega
  · rw [h'.closes, h.closes, hreaches]
    split_ifs <;> omega

/-- After a stretch in which nothing was told. -/
lemma Told.after {r k : Nat} (h : ds.Told c 0 0 ds') (h' : ds'.Told c r k ds'') :
    ds.Told c r k ds'' := by
  simpa using h.trans h'

/-- What the driver of a handle is told. -/
lemma told_act_handle {α : Type} {handle : ConnectionHandle} {r k : Nat} (a : α)
    {f : ScriptedDriver → α × ScriptedDriver} (hc : c.handle = some handle) (ds : Drivers)
    (hr : ∀ d, (f d).2.record.rollbacks = d.record.rollbacks + r)
    (hk : ∀ d, (f d).2.record.closes = d.record.closes + k) :
    ds.Told c r k (ds.act handle.backend a f).2 := by
  have hview (view : ScriptedDriver → Nat) (n : Nat) (hn : ∀ d, view (f d).2 = view d + n)
      (b : Backend) : (ds.act handle.backend a f).2.viewOn view b =
        ds.viewOn view b + if c.reaches ds b then n else 0 := by
    rw [Connection.reaches_of_handle_eq_some hc]
    by_cases hb : handle.backend = b
    · subst hb
      cases hd : ds.get? handle.backend with
      | none => simp [act_of_get?_eq_none hd]
      | some d => simp [act_of_get?_eq_some hd, viewOn_set_self, viewOn_of_get? view hd, hn]
    · simp [viewOn_act_other view ds a hb, hb]
  exact ⟨ds.isSome_get?_act handle.backend a f, hview _ r hr, hview _ k hk⟩

/-- A connection without handle has no driver that could be told anything. -/
lemma told_of_handle_eq_none (hc : c.handle = none) (ds : Drivers) (rollbacks closes : Nat) :
    ds.Told c rollbacks closes ds := by
  have hnone := Connection.reaches_of_handle_eq_none hc ds
  exact ⟨fun _ => rfl, fun b => by simp [hnone], fun b => by simp [hnone]⟩

/-- In a quiet stretch no driver is told anything. -/
lemma Quiet.told (h : ds.Quiet ds') (c : Connection) : ds.Told c 0 0 ds' :=
  ⟨h.installed, fun b => by rw [h.rollbacks, ite_self, Nat.add_zero],
    fun b => by rw [h.closes, ite_self, Nat.add_zero]⟩

end Drivers

namespace Connection

variable {c : Connection} {ds : Drivers}

/-- Rolling back tells the driver of the handle so once, and nothing else. -/
lemma told_rollback (c : Connection) (ds : Drivers) : ds.Told c 1 0 (c.rollback ds).2 := by
  unfold rollback
  split
  · next hc => exact Drivers.told_of_handle_eq_none hc ds _ _
  · next handle hc =>
    refine Drivers.told_act_handle _ hc ds (fun d => ?_) fun d => ?_ <;>
      unfold ScriptedDriver.rollback <;> split <;> rfl

/-- Releasing tells the driver of the handle once to close, even when that fails, and nothing
else. -/
lemma told_release (c : Connection) (ds : Drivers) : ds.Told c 0 1 (c.release ds).2.2 := by
  unfold release
  split
  · next hc => exact Drivers.told_of_handle_eq_none hc ds _ _
  · next handle hc =>
    refine Drivers.told_act_handle _ hc ds (fun d => ?_) fun d => ?_ <;>
      unfold ScriptedDriver.close <;> split <;> rfl

end Connection

namespace ConnectionManager

open Connection

variable {σ τ : Type}

/-- What the boundary makes of an error of an action, and what becomes of the connection and the
drivers as the action left them. -/
inductive SettledAs (c : Connection) (ds : Drivers) :
    ConnectionError → ConnectionError → Connection → Drivers → Prop
  /-- An error of the driver itself is passed on, and nothing happens to the connection. -/
  | passedOn (d : DriverError) (hkind : d.kind = .interface) :
    SettledAs c ds (.driver d) (.driver d) c ds
  /-- Every other driver error is wrapped, and the connection is closed without rolling back. -/
  | wrapped (d : DriverError) (ds' : Drivers) (hkind : d.kind ≠ .interface)
    (htold : ds.Told c 0 1 ds') :
    SettledAs c ds (.driver d) (.database (trim (d.kind.text ++ ": " ++ d.detail))) c.closed ds'
  /-- After any error that is not the driver's the connection is rolled back and then closed.  An
  error of this boundary stays as it is, and any other keeps its wording. -/
  | described (e : ConnectionError) (ds' : Drivers) (hdriver : ∀ d, e ≠ .driver d)
    (htold : ds.Told c 1 1 ds') (hsequence : ds' = (c.release (c.rollback ds).2).2.2) :
    SettledAs c ds e (match e with
      | .database detail => .database detail
      | .runtime detail => .runtime detail
      | e => .runtime e.message) c.closed ds'

/-- How a statement on a connection can end: what it returns, the connection and the drivers. -/
inductive StatementEnd {α : Type} (c : Connection) (ds : Drivers) :
    Except ConnectionError α → Connection → Drivers → Prop
  /-- It succeeds, and the connection stays as it is. -/
  | succeeded (value : α) (ds' : Drivers) (htold : ds.Told c 0 0 ds') :
    StatementEnd c ds (.ok value) c ds'
  /-- No backend can be had, and the connection stays as it is. -/
  | noBackend (e : BackendError) (ds' : Drivers) (htold : ds.Told c 0 0 ds') :
    StatementEnd c ds (.error (.backend e)) c ds'
  /-- An error of the driver itself is passed on, and the connection stays as it is. -/
  | passedOn (d : DriverError) (ds' : Drivers) (hkind : d.kind = .interface)
    (htold : ds.Told c 0 0 ds') : StatementEnd c ds (.error (.driver d)) c ds'
  /-- Another driver error is wrapped, and the connection is closed without rolling back. -/
  | wrapped (d : DriverError) (ds' : Drivers) (hkind : d.kind ≠ .interface)
    (htold : ds.Told c 0 1 ds') :
    StatementEnd c ds (.error (.database (trim (d.kind.text ++ ": " ++ d.detail)))) c.closed ds'
  /-- The connection was not open, and it is closed. -/
  | notOpen (ds' : Drivers) (hnone : c.handle = none) (htold : ds.Told c 1 1 ds') :
    StatementEnd c ds (.error c.notOpen) c.closed ds'

/-- What went before without telling a driver anything belongs to the end of a statement. -/
lemma StatementEnd.after {α : Type} {c c' : Connection} {ds ds' ds'' : Drivers}
    {outcome : Except ConnectionError α} (h : ds.Told c 0 0 ds')
    (h' : StatementEnd c ds' outcome c' ds'') : StatementEnd c ds outcome c' ds'' := by
  cases h' with
  | succeeded value _ htold => exact .succeeded value _ (h.after htold)
  | noBackend e _ htold => exact .noBackend e _ (h.after htold)
  | passedOn d _ hkind htold => exact .passedOn d _ hkind (h.after htold)
  | wrapped d _ hkind htold => exact .wrapped d _ hkind (h.after htold)
  | notOpen _ hnone htold => exact .notOpen _ hnone (h.after htold)

/-! ### The law of the boundary -/

/-- A driver error concerns the database unless it is of the driver itself. -/
lemma isDatabase_iff (d : DriverError) : d.isDatabase = true ↔ d.kind ≠ .interface := by
  unfold DriverError.isDatabase
  cases d.kind <;> simp [DriverErrorKind.isDatabase]

/-- The boundary settles every error by its law. -/
lemma settledAs_settle (e : ConnectionError) (c : Connection) (ds : Drivers) :
    SettledAs c ds e (settle e c ds).1 (settle e c ds).2.1 (settle e c ds).2.2 := by
  unfold settle
  split
  · next d =>
    split
    · next hdatabase =>
      rw [connection_release]
      exact .wrapped d _ ((isDatabase_iff d).mp hdatabase) (c.told_release ds)
    · next hdatabase =>
      refine .passedOn d ?_
      by_contra hkind
      exact hdatabase ((isDatabase_iff d).mpr hkind)
  · next hdriver =>
    -- any other failure rolls back and closes
    have htold : ds.Told c 1 1 (release c ds).2.2 :=
      (c.told_rollback ds).trans (c.told_release _)
    have hlaw : SettledAs c ds e _ c.closed (release c ds).2.2 :=
      .described e _ hdriver htold rfl
    have hclosed : (release c ds).2.1 = c.closed := c.connection_release _
    dsimp only
    rw [hclosed]
    cases e with
    | driver d => exact absurd rfl (hdriver d)
    | _ => exact hlaw

/-- What goes wrong when no backend can be had. -/
lemma eq_backend_of_backendFor {s s' : Session σ τ} {p : Profile} {e : ConnectionError}
    (h : s.backendFor p = (.error e, s')) :
    (∃ e', e = .backend e') ∧ s'.drivers = s.drivers := by
  unfold Session.backendFor at h
  split at h
  · obtain ⟨he, rfl⟩ := Prod.mk.inj h
    exact ⟨⟨_, (Except.error.inj he).symm⟩, rfl⟩
  · simp at h

/-- Behind the boundary an action that leaves the connection as it is, is quiet, and fails only with
errors of the driver or because the connection is not open, ends as a statement does. -/
lemma statementEnd_withBoundary {α : Type} (m : ConnectionManager) (c : Connection)
    (s : Session σ τ)
    {action : Backend → Connection → Session σ τ →
      Except ConnectionError α × Connection × Session σ τ}
    (hsame : ∀ b s', (action b c s').2.1 = c)
    (hquiet : ∀ b (s' : Session σ τ), s'.drivers.Quiet (action b c s').2.2.drivers)
    (herror : ∀ b s' e, (action b c s').1 = .error e →
      (∃ d, e = .driver d) ∨ c.handle = none ∧ e = c.notOpen) :
    StatementEnd c s.drivers (m.withBoundary c s action).1 (m.withBoundary c s action).2.1
      (m.withBoundary c s action).2.2.drivers := by
  have hbackend := s.quiet_backendFor m.profile
  unfold withBoundary
  rcases hs : s.backendFor m.profile with ⟨outcome, s₁⟩
  rw [hs] at hbackend
  cases outcome with
  | error e =>
    obtain ⟨⟨e', rfl⟩, -⟩ := eq_backend_of_backendFor hs
    exact .noBackend e' _ (hbackend.told c)
  | ok b =>
    have hactionSame := hsame b s₁
    have haction := (hbackend.trans (hquiet b s₁)).told c
    have hactionError := herror b s₁
    dsimp only
    rcases ha : action b c s₁ with ⟨outcome, c', s₂⟩
    rw [ha] at hactionSame haction hactionError
    obtain rfl : c' = c := hactionSame
    cases outcome with
    | ok value => exact .succeeded value _ haction
    | error e =>
      -- the boundary settles the error, and the kind of the error says how
      refine StatementEnd.after haction ?_
      have hsettled := settledAs_settle e c' s₂.drivers
      change StatementEnd c' s₂.drivers (.error (settle e c' s₂.drivers).1)
        (settle e c' s₂.drivers).2.1 (settle e c' s₂.drivers).2.2
      generalize settle e c' s₂.drivers = result at hsettled ⊢
      obtain ⟨e', c'', ds'⟩ := result
      rcases hactionError e rfl with ⟨d, rfl⟩ | ⟨hnone, rfl⟩
      · cases hsettled with
        | passedOn _ hkind => exact .passedOn d _ hkind (.refl _ _)
        | wrapped _ _ hkind htold => exact .wrapped d _ hkind htold
        | described _ _ hdriver => exact absurd rfl (hdriver d)
      · cases hsettled with
        | described _ _ _ htold => exact .notOpen _ hnone htold

/-! ### Statements -/

/-- A statement fails with an error of the driver, or because the connection is not open. -/
lemma error_runStatement (m : ConnectionManager) {sql : String}
    {bindings : Option (List SqlValue)} {b : Backend} {c : Connection} {s : Session σ τ}
    {e : ConnectionError} (h : (m.runStatement sql bindings b c s).1 = .error e) :
    (∃ d, e = .driver d) ∨ c.handle = none ∧ e = c.notOpen := by
  unfold runStatement at h
  split at h
  · next e' hrequire =>
    obtain rfl := Except.error.inj h
    unfold requireHandle at hrequire
    split at hrequire
    · simp at hrequire
    · next hnone => exact .inr ⟨hnone, (Except.error.inj hrequire).symm⟩
  · dsimp only at h
    split at h
    · exact .inl ⟨_, (Except.error.inj h).symm⟩
    · simp at h

/-- Carrying out a statement does not touch the memory by which a backend is chosen. -/
lemma memory_runStatement (m : ConnectionManager) (sql : String)
    (bindings : Option (List SqlValue)) (b : Backend) (c : Connection) (s : Session σ τ) :
    let s' := (m.runStatement sql bindings b c s).2.2
    s'.resolver = s.resolver ∧ s'.override = s.override ∧ s'.poolingSettled = s.poolingSettled := by
  unfold runStatement
  split
  · exact ⟨rfl, rfl, rfl⟩
  · dsimp only
    split <;> exact ⟨rfl, rfl, rfl⟩

/-- Collecting what a statement returned fails with an error of the driver. -/
lemma error_collect {q : QueryCursor} {fetch : Bool} {limit : Option Nat} {b : Backend}
    {c : Connection} {s : Session σ τ} {e : ConnectionError}
    (h : (collect q fetch limit b c s).1 = .error e) : ∃ d, e = .driver d := by
  unfold collect at h
  dsimp only at h
  generalize (s.act q.backend _ _).1 = outcome at h
  cases outcome with
  | ok value => simp [Except.mapError] at h
  | error d => exact ⟨d, (Except.error.inj h).symm⟩

/-! ### One boundary for what passes two -/

/-- The choice of a backend is remembered: it is made again at once, and changes nothing, as long as
the memory is what the first choice left. -/
lemma backendFor_again {s s₁ s₂ : Session σ τ} {p : Profile} {b : Backend}
    (h : s.backendFor p = (.ok b, s₁)) (hresolver : s₂.resolver = s₁.resolver)
    (hoverride : s₂.override = s₁.override) (hpooling : s₂.poolingSettled = s₁.poolingSettled) :
    s₂.backendFor p = (.ok b, s₂) := by
  unfold Session.backendFor at h
  rcases hr : s.resolver.resolveEffective s.drivers p.driverBackend s.override with
    ⟨outcome, resolver⟩
  rw [hr] at h
  cases outcome with
  | error e => simp at h
  | ok b' =>
    obtain ⟨hb, hs₁⟩ := Prod.mk.inj h
    obtain rfl := Except.ok.inj hb
    -- what the first choice leaves remembered is all that the second one looks at
    have hmemory : s₁.resolver = resolver ∧ s₁.override = s.override ∧
        s₁.poolingSettled = true := by
      rw [← hs₁]
      unfold Session.settlePooling
      split
      · next hsettled => exact ⟨rfl, rfl, hsettled⟩
      · exact ⟨rfl, rfl, rfl⟩
    have hagain : s₂.resolver.resolveEffective s₂.drivers p.driverBackend s₂.override =
        (.ok b', s₂.resolver) := by
      rw [hresolver, hoverride, hmemory.1, hmemory.2.1]
      exact ResolverCache.resolveEffective_again hr s₂.drivers
    have hsettled : s₂.poolingSettled = true := hpooling.trans hmemory.2.2
    rw [Session.backendFor, hagain]
    dsimp only
    rw [Session.settlePooling, if_pos hsettled]

/-- Carrying out a statement and collecting what it returns, without a boundary in between. -/
def runAndCollect (m : ConnectionManager) (sql : String) (fetch : Bool) (limit : Option Nat)
    (b : Backend) (c : Connection) (s : Session σ τ) :
    Except ConnectionError (StatementResponse × List Row) × Connection × Session σ τ :=
  match m.runStatement sql none b c s with
  | (.error e, c, s) => (.error e, c, s)
  | (.ok q, c, s) => collect q fetch limit b c s

/-- Carrying out a statement and collecting leaves the connection as it is. -/
lemma runAndCollect_connection (m : ConnectionManager) (sql : String) (fetch : Bool)
    (limit : Option Nat) (b : Backend) (c : Connection) (s : Session σ τ) :
    (m.runAndCollect sql fetch limit b c s).2.1 = c := by
  have hsame := m.runStatement_connection sql none b c s
  unfold runAndCollect
  split
  · next hrun => rwa [hrun] at hsame
  · next hrun => rwa [hrun] at hsame

/-- Carrying out a statement and collecting is quiet. -/
lemma quiet_runAndCollect (m : ConnectionManager) (sql : String) (fetch : Bool)
    (limit : Option Nat) (b : Backend) (c : Connection) (s : Session σ τ) :
    s.drivers.Quiet (m.runAndCollect sql fetch limit b c s).2.2.drivers := by
  have hquiet := m.quiet_runStatement sql none b c s
  unfold runAndCollect
  rcases hrun : m.runStatement sql none b c s with ⟨outcome, c', s'⟩
  rw [hrun] at hquiet
  cases outcome with
  | error e => exact hquiet
  | ok q => exact hquiet.trans (quiet_collect q fetch limit b c' s')

/-- Carrying out a statement and collecting fails with an error of the driver, or because the
connection is not open. -/
lemma error_runAndCollect (m : ConnectionManager) {sql : String} {fetch : Bool}
    {limit : Option Nat} {b : Backend} {c : Connection} {s : Session σ τ} {e : ConnectionError}
    (h : (m.runAndCollect sql fetch limit b c s).1 = .error e) :
    (∃ d, e = .driver d) ∨ c.handle = none ∧ e = c.notOpen := by
  unfold runAndCollect at h
  rcases hrun : m.runStatement sql none b c s with ⟨outcome, c', s'⟩
  rw [hrun] at h
  cases outcome with
  | error e' =>
    obtain rfl := Except.error.inj h
    exact m.error_runStatement (congrArg Prod.fst hrun)
  | ok q => exact .inl (error_collect h)

/-- Of the two boundaries that are passed when a statement is carried out and collected, the inner
one does nothing that the outer one would not do: what an error becomes is settled once. -/
theorem execute_eq_withBoundary (m : ConnectionManager) (c : Connection) (sql : String)
    (fetch : Bool) (limit : Option Nat) (s : Session σ τ) :
    m.execute c sql fetch limit s = m.withBoundary c s (m.runAndCollect sql fetch limit) := by
  unfold execute addQuery withBoundary runAndCollect
  rcases hs : s.backendFor m.profile with ⟨outcome, s₁⟩
  cases outcome with
  | error e => rfl
  | ok b =>
    have hmemory := m.memory_runStatement sql none b c s₁
    dsimp only at hmemory ⊢
    rcases hrun : m.runStatement sql none b c s₁ with ⟨outcome, c', s₂⟩
    rw [hrun] at hmemory
    cases outcome with
    | error e => rfl
    | ok q =>
      dsimp only
      rw [backendFor_again hs hmemory.1 hmemory.2.1 hmemory.2.2]

/-- Every statement on a connection in use, whatever was done before by any managers and whatever
the drivers do, ends in one of the ways of `StatementEnd`; the handle of the connection has its
driver, so what that driver was told is told of the handle.

Carrying out a statement is one action behind the boundary, with or without collecting what it
returns.  And for every action the boundary has the same law: without a backend the error says so
and nothing happens, a success is passed through, and an error is settled by the rules of
`SettledAs`. -/
theorem errors_behind_boundary (services : Services σ τ) (s : Session σ τ)
    (native odbc : Option DriverScript) (names : List String) (moves : List Move)
    (m : ConnectionManager) (override : Option String) :
    let w := (Workplace.start s native odbc names).run services moves
    let now := { w.session with override }
    (∀ c ∈ w.connections, (∀ b, c.reaches now.drivers b = c.holds b) ∧
      (∀ sql bindings, let (outcome, c', s') := m.addQuery c sql bindings now
        StatementEnd c now.drivers outcome c' s'.drivers) ∧
      ∀ sql fetch limit, let (outcome, c', s') := m.execute c sql fetch limit now
        StatementEnd c now.drivers outcome c' s'.drivers) ∧
    (∀ (c : Connection) (s : Session σ τ) (sql : String),
      (∀ bindings, m.addQuery c sql bindings s =
        m.withBoundary c s (m.runStatement sql bindings)) ∧
      ∀ fetch limit, m.execute c sql fetch limit s =
        m.withBoundary c s (m.runAndCollect sql fetch limit)) ∧
    ∀ (α : Type) (c : Connection) (s : Session σ τ)
      (action : Backend → Connection → Session σ τ →
        Except ConnectionError α × Connection × Session σ τ),
      match s.backendFor m.profile with
      | (.error e, s₁) => (∃ e', e = .backend e') ∧ s₁.drivers = s.drivers ∧
          m.withBoundary c s action = (.error e, c, s₁)
      | (.ok b, s₁) =>
        match action b c s₁ with
        | (.ok value, c₁, s₂) => m.withBoundary c s action = (.ok value, c₁, s₂)
        | (.error e, c₁, s₂) => ∃ e' c₂ drivers, SettledAs c₁ s₂.drivers e e' c₂ drivers ∧
            m.withBoundary c s action = (.error e', c₂, { s₂ with drivers }) := by
  intro w now
  have hbalanced : w.Balanced := (Workplace.balanced_start s native odbc names).run services moves
  refine ⟨fun c hc => ⟨fun b => ?_, fun sql bindings => ?_, fun sql fetch limit => ?_⟩,
    fun c s sql => ⟨fun _ => rfl, fun fetch limit => ?_⟩, fun α c s action => ?_⟩
  · exact (hbalanced.backed hc).reaches_eq b
  · exact m.statementEnd_withBoundary c now
      (fun b s' => m.runStatement_connection sql bindings b c s')
      (fun b s' => m.quiet_runStatement sql bindings b c s') fun b s' e => m.error_runStatement
  · rw [execute_eq_withBoundary]
    exact m.statementEnd_withBoundary c now
      (fun b s' => m.runAndCollect_connection sql fetch limit b c s')
      (fun b s' => m.quiet_runAndCollect sql fetch limit b c s') fun b s' e => m.error_runAndCollect
  · exact m.execute_eq_withBoundary c sql fetch limit s
  · -- an action of any kind: what the boundary does with each of its outcomes
    rcases hs : s.backendFor m.profile with ⟨outcome, s₁⟩
    cases outcome with
    | error e =>
      obtain ⟨hbackend, hdrivers⟩ := eq_backend_of_backendFor hs
      exact ⟨hbackend, hdrivers, by rw [withBoundary, hs]⟩
    | ok b =>
      dsimp only
      rcases ha : action b c s₁ with ⟨outcome, c₁, s₂⟩
      cases outcome with
      | ok value =>
        dsimp only
        simp only [withBoundary, hs, ha]
      | error e =>
        refine ⟨_, _, _, settledAs_settle e c₁ s₂.drivers, ?_⟩
        simp only [withBoundary, hs, ha]

end ConnectionManager

end WarehouseAccess
